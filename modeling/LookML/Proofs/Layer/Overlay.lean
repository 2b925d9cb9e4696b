import LookML.Proofs.Layer.Lookup
/-!
# Putting layers on one another

It does not matter in which order three layers are put on one another, the upper two first or the
lower two, if the one in the middle has distinct members. Of the properties, all those of a name
that the upper layer has stand where the lower layer has that name first; the names that only the
upper layer has follow at the end.
-/

namespace LookML

namespace Property

variable {ps qs xs ys : List Property} {p : Property} {name other : String} {ns ms : List String}
  {block : String → List Property} {seen : List String}

/-! ## Replacing one name -/

theorem replaceNamed_nil (name : String) (xs : List Property) : replaceNamed name xs [] = xs := by
  simp [replaceNamed]

theorem replaceNamed_cons_of_eq (h : p.name = name) (xs ps : List Property) :
    replaceNamed name xs (p :: ps) = xs ++ ps.filter (·.name ≠ name) := by
  simp [replaceNamed, h]

theorem replaceNamed_cons_of_ne (h : p.name ≠ name) (xs ps : List Property) :
    replaceNamed name xs (p :: ps) = p :: replaceNamed name xs ps := by
  simp [replaceNamed, h]

theorem replaceNamed_append (h : ∀ y ∈ ys, y.name ≠ name) (xs ps : List Property) :
    replaceNamed name xs (ys ++ ps) = ys ++ replaceNamed name xs ps := by
  induction ys with
  | nil => rfl
  | cons y ys ih =>
    obtain ⟨hy, hys⟩ := List.forall_mem_cons.1 h
    rw [List.cons_append, replaceNamed_cons_of_ne hy, ih hys, List.cons_append]

structure StandFor (name : String) (xs : List Property) : Prop where
  ne_nil : xs ≠ []
  named : ∀ x ∈ xs, x.name = name

theorem StandFor.filter_eq_self (h : StandFor name xs) (hne : other ≠ name) :
    xs.filter (·.name ≠ other) = xs := by
  apply List.filter_eq_self.2
  intro x hx
  simp [h.named x hx, hne.symm]

theorem StandFor.forall_ne (h : StandFor name xs) (hne : other ≠ name) :
    ∀ x ∈ xs, x.name ≠ other :=
  fun x hx e => hne (e.symm.trans (h.named x hx))

theorem standFor_occurrences (h : name ∈ names qs) : StandFor name (occurrences qs name) where
  ne_nil := mem_names.1 h
  named := fun _ hx => of_decide_eq_true (List.mem_filter.1 hx).2

theorem replaceNamed_replaceNamed (hxs : StandFor name xs) (ys ps : List Property) :
    replaceNamed name ys (replaceNamed name xs ps) = replaceNamed name ys ps := by
  have hblock : ∀ rest : List Property, replaceNamed name ys (xs ++ rest) =
      ys ++ rest.filter (·.name ≠ name) := by
    intro rest
    obtain ⟨x, xs', rfl⟩ := List.exists_cons_of_ne_nil hxs.ne_nil
    obtain ⟨hx, hrest⟩ := List.forall_mem_cons.1 hxs.named
    have hnone : xs'.filter (·.name ≠ name) = [] := by
      apply List.filter_eq_nil_iff.2
      intro x' hx'
      simp [hrest x' hx']
    rw [List.cons_append, replaceNamed_cons_of_eq hx, List.filter_append, hnone, List.nil_append]
  induction ps with
  | nil =>
    have hrest := hblock []
    rw [List.append_nil, List.filter_nil, List.append_nil] at hrest
    rw [replaceNamed_nil, replaceNamed_nil, hrest]
  | cons p ps ih =>
    by_cases hp : p.name = name
    · rw [replaceNamed_cons_of_eq hp, replaceNamed_cons_of_eq hp, hblock, List.filter_filter]
      simp
    · rw [replaceNamed_cons_of_ne hp, replaceNamed_cons_of_ne hp, replaceNamed_cons_of_ne hp, ih]

theorem filter_replaceNamed (hne : other ≠ name) (hxs : StandFor name xs) (ps : List Property) :
    (replaceNamed name xs ps).filter (·.name ≠ other) =
      replaceNamed name xs (ps.filter (·.name ≠ other)) := by
  induction ps with
  | nil => rw [replaceNamed_nil, List.filter_nil, replaceNamed_nil, hxs.filter_eq_self hne]
  | cons p ps ih =>
    by_cases hp : p.name = name
    · have hkept : p.name ≠ other := fun e => hne (e.symm.trans hp)
      have hcons : (p :: ps).filter (·.name ≠ other) = p :: ps.filter (·.name ≠ other) := by
        simp [hkept]
      rw [replaceNamed_cons_of_eq hp, hcons, replaceNamed_cons_of_eq hp, List.filter_append,
        hxs.filter_eq_self hne, List.filter_filter, List.filter_filter]
      simp only [Bool.and_comm]
    · rw [replaceNamed_cons_of_ne hp]
      by_cases hother : p.name = other
      · simpa [hother] using ih
      · have hcons : ∀ rest : List Property,
            (p :: rest).filter (·.name ≠ other) = p :: rest.filter (·.name ≠ other) := by
          intro rest
          simp [hother]
        rw [hcons, hcons, replaceNamed_cons_of_ne hp, ih]

theorem replaceNamed_comm (hne : other ≠ name) (hxs : StandFor name xs) (hys : StandFor other ys)
    (hmem : name ∈ names ps) :
    replaceNamed name xs (replaceNamed other ys ps) =
      replaceNamed other ys (replaceNamed name xs ps) := by
  induction ps with
  | nil => cases hmem
  | cons p ps ih =>
    by_cases hp : p.name = name
    · have hother : p.name ≠ other := fun e => hne (e.symm.trans hp)
      rw [replaceNamed_cons_of_ne hother, replaceNamed_cons_of_eq hp, replaceNamed_cons_of_eq hp,
        replaceNamed_append (hxs.forall_ne hne), filter_replaceNamed hne.symm hys]
    · have hrest : name ∈ names ps := by
        rw [names, List.mem_cons] at hmem
        exact (List.mem_filter.1 (hmem.resolve_left (Ne.symm hp))).1
      rw [replaceNamed_cons_of_ne hp]
      by_cases hother : p.name = other
      · rw [replaceNamed_cons_of_eq hother, replaceNamed_cons_of_eq hother,
          replaceNamed_append (hys.forall_ne hne.symm), filter_replaceNamed hne hxs]
      · rw [replaceNamed_cons_of_ne hother, replaceNamed_cons_of_ne hother,
          replaceNamed_cons_of_ne hp, ih hrest]

/-! ## The names that there are -/

theorem mem_names_iff : name ∈ names ps ↔ ∃ p ∈ ps, p.name = name := by
  rw [mem_names, occurrences, ne_eq, List.filter_eq_nil_iff]
  simp

theorem names_filter (ps : List Property) (keep : String → Bool) :
    names (ps.filter (keep ·.name)) = (names ps).filter keep := by
  induction ps with
  | nil => rfl
  | cons p ps ih =>
    by_cases hp : keep p.name = true
    · simp [names, hp, ih, List.filter_filter, Bool.and_comm]
    · have hskip : (p :: ps).filter (keep ·.name) = ps.filter (keep ·.name) :=
        List.filter_cons_of_neg hp
      rw [hskip, ih, names, List.filter_cons_of_neg hp, List.filter_filter]
      apply List.filter_congr
      intro other _
      by_cases hother : other = p.name
      · simp [hother, hp]
      · simp [hother]

theorem StandFor.names_append (h : StandFor name xs) (ps : List Property) :
    names (xs ++ ps) = name :: (names ps).filter (· ≠ name) := by
  obtain ⟨hne, hnamed⟩ := h
  induction xs with
  | nil => exact absurd rfl hne
  | cons x xs ih =>
    obtain ⟨hx, hrest⟩ := List.forall_mem_cons.1 hnamed
    rw [List.cons_append, names, hx]
    cases xs with
    | nil => rfl
    | cons y xs =>
      rw [ih (List.cons_ne_nil y xs) hrest]
      simp

theorem names_replaceNamed (hxs : StandFor name xs) (ps : List Property) :
    names (replaceNamed name xs ps) = if name ∈ names ps then names ps else names ps ++ [name] := by
  induction ps with
  | nil =>
    have hsingle := hxs.names_append []
    rw [List.append_nil] at hsingle
    rw [replaceNamed_nil, hsingle]
    rfl
  | cons p ps ih =>
    by_cases hp : p.name = name
    · rw [replaceNamed_cons_of_eq hp, hxs.names_append, names_filter ps fun n => n ≠ name,
        List.filter_filter]
      simp [names, hp]
    · rw [replaceNamed_cons_of_ne hp, names, ih, names]
      by_cases hmem : name ∈ names ps <;> simp [hmem, Ne.symm hp]

/-! ## Replacing many names -/

def replaceAll (block : String → List Property) (ns : List String) (ps : List Property) :
    List Property :=
  ns.foldl (fun acc name => replaceNamed name (block name) acc) ps

theorem overlay_eq_replaceAll (ps qs : List Property) :
    overlay ps qs = replaceAll (occurrences qs) (names qs) ps := rfl

theorem replaceAll_cons (block : String → List Property) (name : String) (ns : List String)
    (ps : List Property) :
    replaceAll block (name :: ns) ps = replaceAll block ns (replaceNamed name (block name) ps) :=
  rfl

theorem replaceAll_append (block : String → List Property) (ns ms : List String)
    (ps : List Property) :
    replaceAll block (ns ++ ms) ps = replaceAll block ms (replaceAll block ns ps) :=
  List.foldl_append

theorem replaceAll_congr {other : String → List Property} (h : ∀ n ∈ ns, block n = other n)
    (ps : List Property) : replaceAll block ns ps = replaceAll other ns ps := by
  induction ns generalizing ps with
  | nil => rfl
  | cons n ns ih =>
    obtain ⟨hn, hns⟩ := List.forall_mem_cons.1 h
    calc replaceAll block ns (replaceNamed n (block n) ps)
        = replaceAll other ns (replaceNamed n (block n) ps) := ih hns _
      _ = replaceAll other ns (replaceNamed n (other n) ps) := by rw [hn]

theorem replaceAll_update (h : name ∉ ns) (ps : List Property) :
    replaceAll (Function.update block name xs) ns ps = replaceAll block ns ps := by
  apply replaceAll_congr
  intro n hn
  exact Function.update_of_ne (fun e : n = name => h (e ▸ hn)) _ _

theorem replaceNamed_replaceAll_of_notMem (hblock : ∀ n ∈ ns, StandFor n (block n))
    (hxs : StandFor name xs) (hns : name ∉ ns) (hmem : name ∈ names ps) :
    replaceNamed name xs (replaceAll block ns ps) =
      replaceAll block ns (replaceNamed name xs ps) := by
  induction ns generalizing ps with
  | nil => rfl
  | cons n ns ih =>
    obtain ⟨hn, hrest⟩ := List.forall_mem_cons.1 hblock
    rw [List.mem_cons, not_or] at hns
    have hstill : name ∈ names (replaceNamed n (block n) ps) := by
      rw [names_replaceNamed hn]
      split
      · exact hmem
      · exact List.mem_append_left _ hmem
    calc replaceNamed name xs (replaceAll block ns (replaceNamed n (block n) ps))
        = replaceAll block ns (replaceNamed name xs (replaceNamed n (block n) ps)) :=
          ih hrest hns.2 hstill
      _ = replaceAll block ns (replaceNamed n (block n) (replaceNamed name xs ps)) := by
        rw [replaceNamed_comm (Ne.symm hns.1) hxs hn hmem]

theorem replaceNamed_replaceAll (hblock : ∀ n ∈ ns, StandFor n (block n))
    (hxs : StandFor name xs) (hns : ns.Nodup) (hmem : name ∈ ns) (ps : List Property) :
    replaceNamed name xs (replaceAll block ns ps) =
      replaceAll (Function.update block name xs) ns ps := by
  induction ns generalizing ps with
  | nil => cases hmem
  | cons n ns ih =>
    obtain ⟨hn, hrest⟩ := List.forall_mem_cons.1 hblock
    obtain ⟨hnew, hns⟩ := List.nodup_cons.1 hns
    by_cases he : n = name
    · subst he
      have hmem : n ∈ names (replaceNamed n (block n) ps) := by
        rw [names_replaceNamed hn]
        split
        · assumption
        · simp
      calc replaceNamed n xs (replaceAll block ns (replaceNamed n (block n) ps))
          = replaceAll block ns (replaceNamed n xs (replaceNamed n (block n) ps)) :=
            replaceNamed_replaceAll_of_notMem hrest hxs hnew hmem
        _ = replaceAll block ns (replaceNamed n xs ps) := by rw [replaceNamed_replaceNamed hn]
        _ = replaceAll (Function.update block n xs) ns (replaceNamed n xs ps) :=
            (replaceAll_update hnew _).symm
        _ = replaceAll (Function.update block n xs) (n :: ns) ps := by
            rw [replaceAll_cons, Function.update_self]
    · have hin : name ∈ ns := (List.mem_cons.1 hmem).resolve_left (Ne.symm he)
      calc replaceNamed name xs (replaceAll block ns (replaceNamed n (block n) ps))
          = replaceAll (Function.update block name xs) ns (replaceNamed n (block n) ps) :=
            ih hrest hns hin _
        _ = replaceAll (Function.update block name xs) (n :: ns) ps := by
            rw [replaceAll_cons, Function.update_of_ne he]

theorem filter_notMem_append_singleton {m : String} (h : m ∉ ms) (ns : List String) :
    ms.filter (· ∉ ns ++ [m]) = ms.filter (· ∉ ns) := by
  apply List.filter_congr
  intro n hn
  have hne : n ≠ m := fun e => h (e ▸ hn)
  simp [hne]

theorem replaceAll_replaceAll {block' : String → List Property}
    (hblock : ∀ n ∈ ns, StandFor n (block n)) (hblock' : ∀ m ∈ ms, StandFor m (block' m))
    (hns : ns.Nodup) (hms : ms.Nodup) (ps : List Property) :
    replaceAll block' ms (replaceAll block ns ps) =
      replaceAll (fun n => if n ∈ ms then block' n else block n) (ns ++ ms.filter (· ∉ ns)) ps := by
  induction ms generalizing block ns with
  | nil =>
    rw [List.filter_nil, List.append_nil]
    exact replaceAll_congr (fun _ _ => (if_neg (List.not_mem_nil)).symm) ps
  | cons m ms ih =>
    obtain ⟨hm, hrest⟩ := List.forall_mem_cons.1 hblock'
    obtain ⟨hnew, hms⟩ := List.nodup_cons.1 hms
    have hupdated : ∀ n, (if n ∈ ms then block' n else Function.update block m (block' m) n) =
        if n ∈ m :: ms then block' n else block n := by
      intro n
      by_cases he : n = m
      · simp [he, hnew]
      · simp [he]
    have hstand : ∀ {ns' : List String}, (∀ n ∈ ns', n ∈ ns ∨ n = m) →
        ∀ n ∈ ns', StandFor n (Function.update block m (block' m) n) := by
      intro ns' hsub n hn
      by_cases he : n = m
      · rw [he, Function.update_self]
        exact hm
      · rw [Function.update_of_ne he]
        exact hblock n ((hsub n hn).resolve_right he)
    rw [replaceAll_cons]
    by_cases hmem : m ∈ ns
    · rw [replaceNamed_replaceAll hblock hm hns hmem,
        ih (hstand fun n hn => Or.inl hn) hrest hns hms, List.filter_cons_of_neg (by simpa using hmem)]
      simp only [hupdated]
    · have hlast : replaceNamed m (block' m) (replaceAll block ns ps) =
          replaceAll (Function.update block m (block' m)) (ns ++ [m]) ps := by
        rw [replaceAll_append, replaceAll_update hmem, replaceAll_cons, Function.update_self]
        rfl
      have hnodup : (ns ++ [m]).Nodup := by
        rw [List.nodup_append]
        exact ⟨hns, List.nodup_singleton m, by
          intro n hn m' hm' e
          rw [List.mem_singleton] at hm'
          exact hmem (hm' ▸ e ▸ hn)⟩
      rw [hlast, ih (hstand (by simp)) hrest hnodup hms, filter_notMem_append_singleton hnew,
        List.filter_cons_of_pos (by simpa using hmem), List.append_assoc, List.singleton_append]
      simp only [hupdated]

theorem names_replaceAll (hblock : ∀ n ∈ ns, StandFor n (block n)) (hns : ns.Nodup)
    (ps : List Property) :
    names (replaceAll block ns ps) = names ps ++ ns.filter (· ∉ names ps) := by
  induction ns generalizing ps with
  | nil => simp [replaceAll]
  | cons n ns ih =>
    obtain ⟨hn, hrest⟩ := List.forall_mem_cons.1 hblock
    obtain ⟨hnew, hns⟩ := List.nodup_cons.1 hns
    rw [replaceAll_cons, ih hrest hns, names_replaceNamed hn]
    by_cases hmem : n ∈ names ps
    · rw [if_pos hmem, List.filter_cons_of_neg (by simpa using hmem)]
    · rw [if_neg hmem, filter_notMem_append_singleton hnew,
        List.filter_cons_of_pos (by simpa using hmem), List.append_assoc, List.singleton_append]

theorem standFor_of_mem_names (qs : List Property) :
    ∀ n ∈ names qs, StandFor n (occurrences qs n) :=
  fun _ hn => standFor_occurrences hn

/-- The names keep their places; the new ones follow in order of first appearance. -/
theorem names_overlay (ps qs : List Property) :
    names (overlay ps qs) = names ps ++ (names qs).filter (· ∉ names ps) :=
  names_replaceAll (standFor_of_mem_names qs) (nodup_names qs) ps

theorem overlay_assoc (ps qs rs : List Property) :
    overlay (overlay ps qs) rs = overlay ps (overlay qs rs) := by
  have hoccurrences : occurrences (overlay qs rs) =
      fun n => if n ∈ names rs then occurrences rs n else occurrences qs n :=
    funext (occurrences_overlay qs rs)
  rw [overlay_eq_replaceAll ps (overlay qs rs), hoccurrences, names_overlay]
  exact replaceAll_replaceAll (standFor_of_mem_names qs) (standFor_of_mem_names rs)
    (nodup_names qs) (nodup_names rs) ps

/-! ## Where properties stand -/

/-- The properties without those whose names are in `seen`, and with those of each name in `ns`
replaced at the place of the first one. -/
def settle (block : String → List Property) (ns seen : List String) : List Property → List Property
  | [] => []
  | p :: ps =>
    if p.name ∈ seen then settle block ns seen ps
    else if p.name ∈ ns then block p.name ++ settle block ns (p.name :: seen) ps
    else p :: settle block ns seen ps

theorem replaceAll_cons_of_notMem (h : p.name ∉ ns) (ps : List Property) :
    replaceAll block ns (p :: ps) = p :: replaceAll block ns ps := by
  induction ns generalizing ps with
  | nil => rfl
  | cons n ns ih =>
    rw [List.mem_cons, not_or] at h
    rw [replaceAll_cons, replaceNamed_cons_of_ne h.1]
    exact ih h.2 _

theorem replaceAll_append_of_forall_notMem (h : ∀ x ∈ xs, x.name ∉ ns) (ps : List Property) :
    replaceAll block ns (xs ++ ps) = xs ++ replaceAll block ns ps := by
  induction xs with
  | nil => rfl
  | cons x xs ih =>
    obtain ⟨hx, hxs⟩ := List.forall_mem_cons.1 h
    rw [List.cons_append, replaceAll_cons_of_notMem hx, ih hxs, List.cons_append]

theorem replaceAll_cons_of_mem (hblock : ∀ n ∈ ns, StandFor n (block n)) (hns : ns.Nodup)
    (h : p.name ∈ ns) (ps : List Property) :
    replaceAll block ns (p :: ps) =
      block p.name ++ replaceAll block (ns.filter (· ≠ p.name)) (ps.filter (·.name ≠ p.name)) := by
  induction ns generalizing ps with
  | nil => cases h
  | cons n ns ih =>
    obtain ⟨hn, hrest⟩ := List.forall_mem_cons.1 hblock
    obtain ⟨hnew, hns⟩ := List.nodup_cons.1 hns
    by_cases he : p.name = n
    · have hothers : (n :: ns).filter (· ≠ p.name) = ns := by
        rw [List.filter_cons_of_neg (by simp [he]), List.filter_eq_self]
        intro m hm
        have hne : m ≠ n := fun e => hnew (e ▸ hm)
        simp [he, hne]
      have hpassed : ∀ x ∈ block n, x.name ∉ ns := fun x hx => hn.named x hx ▸ hnew
      rw [hothers, replaceAll_cons, replaceNamed_cons_of_eq he, he]
      exact replaceAll_append_of_forall_notMem hpassed _
    · have hin : p.name ∈ ns := (List.mem_cons.1 h).resolve_left he
      have hothers : (n :: ns).filter (· ≠ p.name) = n :: ns.filter (· ≠ p.name) :=
        List.filter_cons_of_pos (by simpa using Ne.symm he)
      rw [hothers, replaceAll_cons, replaceNamed_cons_of_ne he, ih hrest hns hin,
        filter_replaceNamed he hn, replaceAll_cons]

theorem replaceAll_nil (hblock : ∀ n ∈ ns, StandFor n (block n)) (hns : ns.Nodup) :
    replaceAll block ns [] = ns.flatMap block := by
  have hfrom : ∀ before : List Property, (∀ x ∈ before, x.name ∉ ns) →
      replaceAll block ns before = before ++ ns.flatMap block := by
    induction ns with
    | nil => simp [replaceAll]
    | cons n ns ih =>
      obtain ⟨hn, hrest⟩ := List.forall_mem_cons.1 hblock
      obtain ⟨hnew, hns⟩ := List.nodup_cons.1 hns
      intro before hbefore
      have hput : replaceNamed n (block n) before = before ++ block n := by
        have happend := replaceNamed_append (fun x hx e => hbefore x hx (e ▸ List.mem_cons_self))
          (block n) []
        rwa [List.append_nil, replaceNamed_nil] at happend
      have hnext : ∀ x ∈ before ++ block n, x.name ∉ ns := by
        intro x hx
        rcases List.mem_append.1 hx with hx | hx
        · exact fun hmem => hbefore x hx (List.mem_cons_of_mem n hmem)
        · exact hn.named x hx ▸ hnew
      rw [replaceAll_cons, hput, ih hrest hns _ hnext, List.flatMap_cons,
        List.append_assoc]
  exact hfrom [] nofun

theorem filter_notMem_names_cons (h : p.name ∈ seen ∨ p.name ∉ ns) (ps : List Property) :
    (ns.filter fun n => n ∉ seen ∧ n ∉ names (p :: ps)) =
      ns.filter fun n => n ∉ seen ∧ n ∉ names ps := by
  apply List.filter_congr
  intro n hn
  by_cases he : n = p.name
  · have hseen : n ∈ seen := he ▸ h.resolve_right fun hout => hout (he ▸ hn)
    simp [hseen]
  · simp [names, he]

theorem replaceAll_eq (hblock : ∀ n ∈ ns, StandFor n (block n)) (hns : ns.Nodup)
    (seen : List String) (ps : List Property) :
    replaceAll block (ns.filter (· ∉ seen)) (ps.filter (·.name ∉ seen)) =
      settle block ns seen ps ++
        (ns.filter fun n => n ∉ seen ∧ n ∉ names ps).flatMap block := by
  have hstand : ∀ seen : List String, ∀ n ∈ ns.filter (· ∉ seen), StandFor n (block n) :=
    fun _ n hn => hblock n (List.mem_filter.1 hn).1
  induction ps generalizing seen with
  | nil =>
    rw [List.filter_nil, replaceAll_nil (hstand seen) (hns.filter _)]
    simp [settle, names]
  | cons p ps ih =>
    by_cases hseen : p.name ∈ seen
    · rw [List.filter_cons_of_neg (by simpa using hseen), ih,
        filter_notMem_names_cons (Or.inl hseen), settle, if_pos hseen]
    · rw [List.filter_cons_of_pos (by simpa using hseen), settle, if_neg hseen]
      by_cases hmem : p.name ∈ ns
      · have hns' : (ns.filter (· ∉ seen)).filter (· ≠ p.name) =
            ns.filter (· ∉ p.name :: seen) := by
          rw [List.filter_filter]
          simp
        have hps' : (ps.filter (·.name ∉ seen)).filter (·.name ≠ p.name) =
            ps.filter (·.name ∉ p.name :: seen) := by
          rw [List.filter_filter]
          simp
        have hnew : (ns.filter fun n => n ∉ seen ∧ n ∉ names (p :: ps)) =
            ns.filter fun n => n ∉ p.name :: seen ∧ n ∉ names ps := by
          apply List.filter_congr
          intro n _
          by_cases he : n = p.name <;> simp [names, he]
        have hin : p.name ∈ ns.filter (· ∉ seen) := List.mem_filter.2 ⟨hmem, by simpa using hseen⟩
        rw [replaceAll_cons_of_mem (hstand seen) (hns.filter _) hin, hns', hps', ih, if_pos hmem,
          hnew, List.append_assoc]
      · have hout : p.name ∉ ns.filter (· ∉ seen) := fun hin => hmem (List.mem_filter.1 hin).1
        rw [replaceAll_cons_of_notMem hout, ih, if_neg hmem,
          filter_notMem_names_cons (Or.inr hmem), List.cons_append]

theorem overlay_eq (ps qs : List Property) :
    overlay ps qs = settle (occurrences qs) (names qs) [] ps ++
      ((names qs).filter (· ∉ names ps)).flatMap (occurrences qs) := by
  have heq := replaceAll_eq (standFor_of_mem_names qs) (nodup_names qs) [] ps
  simpa [overlay_eq_replaceAll] using heq

theorem names_settle (hblock : ∀ n ∈ ns, StandFor n (block n)) (seen : List String)
    (ps : List Property) : names (settle block ns seen ps) = (names ps).filter (· ∉ seen) := by
  induction ps generalizing seen with
  | nil => rfl
  | cons p ps ih =>
    rw [settle, names]
    by_cases hseen : p.name ∈ seen
    · rw [if_pos hseen, List.filter_cons_of_neg (by simpa using hseen), ih, List.filter_filter]
      apply List.filter_congr
      intro n _
      by_cases he : n = p.name
      · simp [he, hseen]
      · simp [he]
    · rw [if_neg hseen, List.filter_cons_of_pos (by simpa using hseen), List.filter_filter]
      by_cases hmem : p.name ∈ ns
      · rw [if_pos hmem, (hblock _ hmem).names_append, ih, List.filter_filter]
        congr 1
        apply List.filter_congr
        intro n _
        by_cases he : n = p.name <;> simp [he]
      · rw [if_neg hmem, names, ih, List.filter_filter]
        simp only [Bool.and_comm]

theorem exists_settle_append {before : List Property} (hseen : p.name ∉ seen)
    (hbefore : p.name ∉ names before) (hmem : p.name ∈ ns) (after : List Property) :
    ∃ seen', p.name ∈ seen' ∧ settle block ns seen (before ++ p :: after) =
      settle block ns seen before ++ block p.name ++ settle block ns seen' after := by
  induction before generalizing seen with
  | nil =>
    refine ⟨p.name :: seen, List.mem_cons_self, ?_⟩
    simp [settle, hseen, hmem]
  | cons b before ih =>
    rw [names, List.mem_cons, not_or] at hbefore
    obtain ⟨hne, hbefore⟩ := hbefore
    have hrest : p.name ∉ names before := by
      intro hin
      exact hbefore (List.mem_filter.2 ⟨hin, decide_eq_true hne⟩)
    rw [List.cons_append, settle, settle]
    by_cases hb : b.name ∈ seen
    · rw [if_pos hb, if_pos hb]
      exact ih hseen hrest
    · rw [if_neg hb, if_neg hb]
      by_cases hbn : b.name ∈ ns
      · have hseen' : p.name ∉ b.name :: seen := by
          rw [List.mem_cons, not_or]
          exact ⟨hne, hseen⟩
        obtain ⟨seen', hin, heq⟩ := ih hseen' hrest
        refine ⟨seen', hin, ?_⟩
        rw [if_pos hbn, if_pos hbn, heq, List.append_assoc, List.append_assoc, List.append_assoc]
      · obtain ⟨seen', hin, heq⟩ := ih hseen hrest
        refine ⟨seen', hin, ?_⟩
        rw [if_neg hbn, if_neg hbn, heq]
        rfl

theorem StandFor.filter_notMem (h : StandFor name xs) (hmem : name ∈ ns) :
    xs.filter (·.name ∉ ns) = [] := by
  apply List.filter_eq_nil_iff.2
  intro x hx
  simp [h.named x hx, hmem]

theorem filter_settle (hblock : ∀ n ∈ ns, StandFor n (block n)) (hseen : seen ⊆ ns)
    (ps : List Property) :
    (settle block ns seen ps).filter (·.name ∉ ns) = ps.filter (·.name ∉ ns) := by
  induction ps generalizing seen with
  | nil => rfl
  | cons p ps ih =>
    rw [settle]
    by_cases hp : p.name ∈ seen
    · rw [if_pos hp, ih hseen, List.filter_cons_of_neg (by simpa using hseen hp)]
    · rw [if_neg hp]
      by_cases hmem : p.name ∈ ns
      · rw [if_pos hmem, List.filter_append, (hblock _ hmem).filter_notMem hmem, List.nil_append,
          ih (List.cons_subset.2 ⟨hmem, hseen⟩), List.filter_cons_of_neg (by simpa using hmem)]
      · rw [if_neg hmem, List.filter_cons, List.filter_cons, ih hseen]

theorem filter_overlay (ps qs : List Property) :
    (overlay ps qs).filter (·.name ∉ names qs) = ps.filter (·.name ∉ names qs) := by
  have hnew : (((names qs).filter (· ∉ names ps)).flatMap (occurrences qs)).filter
      (·.name ∉ names qs) = [] := by
    rw [List.filter_flatMap, List.flatMap_eq_nil_iff]
    intro n hn
    have hmem := (List.mem_filter.1 hn).1
    exact (standFor_occurrences hmem).filter_notMem hmem
  rw [overlay_eq, List.filter_append, hnew, List.append_nil,
    filter_settle (standFor_of_mem_names qs) (List.nil_subset _)]

/-- What becomes of the properties `ps` when `qs` are put on them. -/
structure Overlaid (ps qs result : List Property) : Prop where
  /-- of each name, what is on top if there is any, and what is below otherwise -/
  occurrences : ∀ n, occurrences result n =
    if n ∈ names qs then occurrences qs n else occurrences ps n
  /-- a name on top stands together, where the name is first below -/
  together : ∀ before p after, ps = before ++ p :: after → p.name ∉ names before →
    p.name ∈ names qs → ∃ front back,
      result = front ++ Property.occurrences qs p.name ++ back ∧ p.name ∉ names back ∧
        names front = names before ∧
          front.filter (·.name ∉ names qs) = before.filter (·.name ∉ names qs)
  /-- the names that are new follow, in order of first appearance -/
  new : ∃ kept, names kept = names ps ∧
    result = kept ++ ((names qs).filter (· ∉ names ps)).flatMap (Property.occurrences qs)
  /-- all else keeps its order -/
  untouched : result.filter (·.name ∉ names qs) = ps.filter (·.name ∉ names qs)

theorem overlaid (ps qs : List Property) : Overlaid ps qs (overlay ps qs) where
  occurrences := occurrences_overlay ps qs
  together := by
    rintro before p after rfl hbefore hmem
    obtain ⟨seen', hin, heq⟩ : ∃ seen', p.name ∈ seen' ∧
        settle (Property.occurrences qs) (names qs) [] (before ++ p :: after) = _ :=
      exists_settle_append List.not_mem_nil hbefore hmem after
    refine ⟨_, _, by rw [overlay_eq, heq, List.append_assoc], ?_, ?_, ?_⟩
    · -- what follows is either settled after that name or new
      rw [mem_names_iff]
      rintro ⟨q, hq, hname⟩
      rcases List.mem_append.1 hq with hq | hq
      · have hsettled := mem_names_iff.2 ⟨q, hq, hname⟩
        rw [names_settle (standFor_of_mem_names qs)] at hsettled
        exact of_decide_eq_true (List.mem_filter.1 hsettled).2 hin
      · obtain ⟨n, hn, hq⟩ := List.mem_flatMap.1 hq
        obtain ⟨hn, hnew⟩ := List.mem_filter.1 hn
        have hnamed : p.name = n := hname.symm.trans ((standFor_occurrences hn).named q hq)
        exact of_decide_eq_true hnew (mem_names_iff.2 ⟨p, by simp, hnamed⟩)
    · rw [names_settle (standFor_of_mem_names qs)]
      simp
    · exact filter_settle (standFor_of_mem_names qs) (List.nil_subset _) before
  new := by
    refine ⟨_, ?_, overlay_eq ps qs⟩
    rw [names_settle (standFor_of_mem_names qs)]
    simp
  untouched := filter_overlay ps qs

end Property

namespace Layer

theorem replacing_replacing (z y x : Member) :
    Member.replacing (Member.replacing z y) x = Member.replacing z (Member.replacing y x) := by
  simp [Member.replacing, Member.location]

/-! ## Main statement -/

theorem overlay_regrouped :
    (∀ a b c : Layer, b.Distinct → (a.overlay b).overlay c = a.overlay (b.overlay c)) ∧
      ∀ ps qs : List Property, Property.Overlaid ps qs (Property.overlay ps qs) := by
  refine ⟨fun a b c hb => ?_, Property.overlaid⟩
  have hmembers : ∀ {xs ys zs : List Member}, (ys.map Member.name).Nodup →
      Keyed.putAll Member.name Member.replacing (Keyed.putAll Member.name Member.replacing zs ys)
        xs = Keyed.putAll Member.name Member.replacing zs
          (Keyed.putAll Member.name Member.replacing ys xs) :=
    fun hys => Keyed.putAll_assoc (fun y x _ => name_replacing y x) replacing_replacing _ hys _
  have hothers : Keyed.putAll otherKey (fun _ new => new) _ c.others = _ :=
    Keyed.putAll_assoc (fun _ _ _ => rfl) (fun _ _ _ => rfl) c.others hb.others a.others
  simp only [Layer.overlay, Property.overlay_assoc, hmembers hb.fields, hmembers hb.joins, hothers]

def ofNames (line : Nat) (properties fields joins others : List String) : Layer :=
  let at_ := Location.point "orders.view.lkml" line 3
  let member := fun kind name => Member.mk name ⟨"orders", by decide⟩ ⟨"orders", by decide⟩
    (.mk kind (some name) [] [] at_) []
  { properties := properties.map fun name => .mk name (.text "") at_
    fields := fields.map (member .dimension)
    joins := joins.map (member .join)
    others := others.map fun name => .mk (.other "set") (some name) [] [] at_ }

/-- All of it is the same whichever two layers are merged first. -/
theorem overlay_regrouped_columns :
    let a := ofNames 1 ["label", "sql", "label"] ["x", "y"] ["users"] ["all"]
    let b := ofNames 2 ["label"] ["x"] ["items", "users"] ["all", "few"]
    let c := ofNames 3 ["tags", "sql"] ["y", "x"] ["users"] ["few"]
    let declared := fun m : Member => (m.name, m.overridden.map Location.line, m.location.line)
    b.Distinct ∧ (a.overlay b).overlay c = a.overlay (b.overlay c) ∧
      (a.overlay (b.overlay c)).properties.map (fun p => (p.name, p.location.line)) =
        [("label", 2), ("sql", 3), ("tags", 3)] ∧
      (a.overlay (b.overlay c)).fields.map declared = [("x", [1, 2], 3), ("y", [1], 3)] ∧
      (a.overlay (b.overlay c)).joins.map declared = [("users", [1, 2], 3), ("items", [], 2)] ∧
      (a.overlay (b.overlay c)).others.map (fun b => (b.name, b.location.line)) =
        [(some "all", 2), (some "few", 3)] := by
  intro a b c declared
  have hb : b.Distinct := ⟨by decide, by decide, by decide⟩
  exact ⟨hb, overlay_regrouped.1 a b c hb, by decide +kernel, by decide +kernel,
    by decide +kernel, by decide +kernel⟩

end Layer

end LookML
