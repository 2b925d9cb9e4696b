import LookML.Proofs.Discovery.Search
/-!
# The files that includes lead to

A file is discovered if it is one of the initial files, or a model file that is discovered includes
it, unless it is left out. When the queue of a search is empty, what it has seen is just what is
discovered, whichever way the queue was served.
-/

namespace LookML.Discovery

open FileTree (Place)
open Search (Fresh Step start)

theorem perm_take (file : Path) (new done before after : List Path) :
    (new ++ (done ++ (before ++ file :: after))).Perm
      (file :: done ++ (new ++ (before ++ after))) := by
  have hmiddle : (done ++ (before ++ file :: after)).Perm (file :: done ++ (before ++ after)) := by
    rw [← List.append_assoc, List.cons_append, ← List.append_assoc]
    exact List.perm_middle
  exact (hmiddle.append_left new).trans (List.perm_append_comm_assoc _ _ _)

theorem flatMap_perm_of_map_perm {α β γ : Type} {f : α → β} {g : α → List γ} {l l' : List α}
    (h : (l.map f).Perm (l'.map f)) (hg : ∀ a ∈ l, ∀ b ∈ l', f a = f b → g a = g b) :
    (l.flatMap g).Perm (l'.flatMap g) := by
  induction l generalizing l' with
  | nil =>
    rw [List.map_nil, List.nil_perm, List.map_eq_nil_iff] at h
    rw [h]
  | cons a l ih =>
    obtain ⟨b, hb, hab⟩ := List.mem_map.1 (h.mem_iff.1 List.mem_cons_self)
    obtain ⟨before, after, rfl⟩ := List.append_of_mem hb
    have hmiddle : (before ++ b :: after).Perm (b :: (before ++ after)) := List.perm_middle
    have hrest := h.trans (hmiddle.map f)
    rw [List.map_cons, List.map_cons, hab, List.perm_cons] at hrest
    have hperm := ih hrest fun x hx y hy =>
      hg x (List.mem_cons_of_mem a hx) y (hmiddle.symm.subset (List.mem_cons_of_mem b hy))
    rw [List.flatMap_cons, hg a List.mem_cons_self b hb hab.symm]
    exact (hperm.append_left (g b)).trans (hmiddle.symm.flatMap_right g)

variable [GlobLibrary]

/-- The model file can be read and parsed, and one of its includes names the file. An include that
is about another project names none. -/
def Includes (base : Place) (root model file : Path) : Prop :=
  ∃ name text document pattern full found,
    model.fileName? = some name ∧ Document.isModelName name ∧ base.read model = .ok text ∧
      Document.parse model.text text = .ok document ∧ pattern ∈ document.includes ∧
      includePattern? root pattern = some full ∧ expand base full = .ok found ∧ file ∈ found

/-- The least set that holds the initial files and, with a model file, what it includes, but for
what is not admitted. -/
inductive Discovered (base : Place) (root : Path) (admits : Path → Bool)
    (initial : Path → Prop) : Path → Prop where
  | initial {file : Path} (h : initial file) (admitted : admits file) :
      Discovered base root admits initial file
  | included {model file : Path} (h : Discovered base root admits initial model)
      (includes : Includes base root model file) (admitted : admits file) :
      Discovered base root admits initial file

variable {base : Place} {root p q : Path} {admits : Path → Bool} {initial : Path → Prop}
  {s t : Search} {done : List Path}

theorem mem_named_iff {pattern : String} {file : Path} : file ∈ named base root pattern ↔
    ∃ full found, includePattern? root pattern = some full ∧ expand base full = .ok found ∧
      file ∈ found := by
  unfold named
  split
  · simp_all
  · rename_i full hfull
    cases hfound : expand base full <;> simp_all [Except.toOption]

theorem includes_iff {model file : Path} :
    Includes base root model file ↔ file ∈ foundBy base root model := by
  simp only [Includes, foundBy, List.mem_flatMap, mem_includes_iff, mem_named_iff]
  constructor
  · rintro ⟨name, text, document, pattern, full, found, hname, hmodel, hread, hparse, hpattern,
      hnamed⟩
    exact ⟨pattern, ⟨name, text, document, hname, hmodel, hread, hparse, hpattern⟩,
      full, found, hnamed⟩
  · rintro ⟨pattern, ⟨name, text, document, hname, hmodel, hread, hparse, hpattern⟩,
      full, found, hnamed⟩
    exact ⟨name, text, document, pattern, full, found, hname, hmodel, hread, hparse, hpattern,
      hnamed⟩

/-! ## Spellings of one path -/

theorem unmatchedOf_eq_of_same (h : p.components = q.components) (hp : base.hasFile p)
    (hq : base.hasFile q) : unmatchedOf base root p = unmatchedOf base root q := by
  rw [unmatchedOf, unmatchedOf, includes_eq_of_same h hp hq, Path.relativeTo_eq_of_same root h]

theorem exists_paths_of_expand {pattern : Path} {found : List Path}
    (h : expand base pattern = .ok found) : ∃ paths, GlobLibrary.paths base pattern = .ok paths ∧
      ∀ file, file ∈ found ↔ file ∈ paths ∧ base.hasFile file := by
  obtain ⟨files, hfiles, rfl⟩ := map_eq_ok.1 h
  unfold globFiles at hfiles
  split at hfiles
  · rename_i paths hpaths
    cases hfiles
    exact ⟨paths, hpaths, fun file => by rw [sortPaths, List.mem_mergeSort, List.mem_filter]⟩
  · cases hfiles

theorem hasFile_of_expand {pattern file : Path} {found : List Path}
    (h : expand base pattern = .ok found) (hfile : file ∈ found) : base.hasFile file := by
  obtain ⟨paths, -, hmem⟩ := exists_paths_of_expand h
  exact ((hmem file).1 hfile).2

theorem Discovered.hasFile (hinitial : ∀ file, initial file → base.hasFile file)
    (h : Discovered base root admits initial p) : base.hasFile p := by
  cases h with
  | initial h => exact hinitial p h
  | included _ hincludes =>
    obtain ⟨_, _, _, _, full, found, _, _, _, _, _, _, hfound, hp⟩ := hincludes
    exact hasFile_of_expand hfound hp

/-! ## What holds during a search -/

/-- The files whose includes were followed are done. With the queue they are all that was seen, and
what they include was seen too. -/
structure Progress (base : Place) (root : Path) (admits : Path → Bool) (initial : Path → Prop)
    (done : List Path) (s : Search) : Prop where
  seen : s.seen.Perm (done ++ s.queue)
  distinct : (s.seen.map Path.components).Nodup
  sound : ∀ file ∈ s.seen, Discovered base root admits initial file
  begun : ∀ file, initial file → admits file → file.components ∈ s.seen.map Path.components
  expands : ∀ model ∈ done, ∀ pattern ∈ includes base model, Expands base root pattern
  closed : ∀ model ∈ done, ∀ file ∈ foundBy base root model, admits file →
    file.components ∈ s.seen.map Path.components
  unmatched : s.unmatched.Perm (done.flatMap (unmatchedOf base root))

theorem progress_start {first : List Path} (hfirst : ∀ file, file ∈ first ↔ initial file) :
    Progress base root admits initial [] (start admits first) := by
  obtain ⟨new, hstart, hfresh⟩ := Search.exists_start admits first
  rw [hstart]
  refine ⟨.refl new, hfresh.distinct, fun file hfile => ?_, fun file hfile ha => ?_,
    List.forall_mem_nil _, List.forall_mem_nil _, .refl []⟩
  · obtain ⟨hmem, ha⟩ := hfresh.sound file hfile
    exact .initial ((hfirst file).1 hmem) ha
  · simpa using hfresh.covers file ((hfirst file).2 hfile) ha

theorem Progress.step (h : Progress base root admits initial done s)
    (hstep : Step base root admits s t) :
    ∃ file, Progress base root admits initial (file :: done) t := by
  obtain ⟨before, file, after, new, hqueue, hexpands, hfresh, rfl⟩ := Search.exists_of_step hstep
  have hseen := h.seen
  rw [hqueue] at hseen
  have hfile := h.sound file (hseen.mem_iff.2 (by simp))
  have hgrows {c : List Path.Component} (hc : c ∈ s.seen.map Path.components) :
      c ∈ (new ++ s.seen).map Path.components := by
    rw [List.map_append]
    exact List.mem_append_right _ hc
  refine ⟨file, ?seen, ?distinct, ?sound, ?begun, ?expands, ?closed, ?unmatched⟩
  case seen => exact (hseen.append_left new).trans (perm_take file new done before after)
  case distinct =>
    change ((new ++ s.seen).map Path.components).Nodup
    rw [List.map_append]
    refine hfresh.distinct.append h.distinct fun c hc hseen => ?_
    obtain ⟨p, hp, rfl⟩ := List.mem_map.1 hc
    exact hfresh.unseen p hp hseen
  case sound =>
    refine List.forall_mem_append.2 ⟨fun p hp => ?_, h.sound⟩
    obtain ⟨hfound, ha⟩ := hfresh.sound p hp
    exact .included hfile (includes_iff.2 hfound) ha
  case begun => exact fun p hp ha => hgrows (h.begun p hp ha)
  case expands => exact List.forall_mem_cons.2 ⟨hexpands, h.expands⟩
  case closed =>
    refine List.forall_mem_cons.2 ⟨hfresh.covers, fun model hmodel p hp ha => ?_⟩
    exact hgrows (h.closed model hmodel p hp ha)
  case unmatched => exact (h.unmatched.append_right _).trans List.perm_append_comm

theorem progress_of_steps {first : List Path} (hfirst : ∀ file, file ∈ first ↔ initial file)
    (h : Relation.ReflTransGen (Step base root admits) (start admits first) s) :
    ∃ done, Progress base root admits initial done s := by
  induction h with
  | refl => exact ⟨[], progress_start hfirst⟩
  | tail _ hstep ih =>
    obtain ⟨done, hdone⟩ := ih
    obtain ⟨file, hfile⟩ := hdone.step hstep
    exact ⟨file :: done, hfile⟩

/-! ## The end of a search -/

/-- Nothing is left to be done, and what was seen is just what is discovered. -/
structure Complete (base : Place) (root : Path) (admits : Path → Bool) (initial : Path → Prop)
    (s : Search) : Prop where
  distinct : (s.seen.map Path.components).Nodup
  sound : ∀ file ∈ s.seen, Discovered base root admits initial file
  complete : ∀ file, Discovered base root admits initial file →
    file.components ∈ s.seen.map Path.components
  expands : ∀ file, Discovered base root admits initial file →
    ∀ pattern ∈ includes base file, Expands base root pattern
  unmatched : s.unmatched.Perm (s.seen.flatMap (unmatchedOf base root))

theorem Complete.of_perm (hs : Complete base root admits initial s) (hseen : t.seen.Perm s.seen)
    (hunmatched : t.unmatched.Perm s.unmatched) : Complete base root admits initial t where
  distinct := (hseen.map Path.components).nodup_iff.2 hs.distinct
  sound file hfile := hs.sound file (hseen.mem_iff.1 hfile)
  complete file hfile := (hseen.map Path.components).mem_iff.2 (hs.complete file hfile)
  expands := hs.expands
  unmatched := hunmatched.trans (hs.unmatched.trans (hseen.symm.flatMap_right _))

theorem Progress.finish (h : Progress base root admits initial done s) (hqueue : s.queue = [])
    (hfiles : ∀ file, Discovered base root admits initial file → base.hasFile file) :
    Complete base root admits initial s := by
  have hseen : s.seen.Perm done := by simpa [hqueue] using h.seen
  have hcomplete : ∀ file, Discovered base root admits initial file →
      file.components ∈ s.seen.map Path.components := by
    intro file hfile
    induction hfile with
    | initial hinitial ha => exact h.begun _ hinitial ha
    | @included model file hmodel hincludes ha ih =>
      -- The model file was seen as `m`, perhaps spelled another way.
      obtain ⟨m, hm, hcomponents⟩ := List.mem_map.1 ih
      refine h.closed m (hseen.mem_iff.1 hm) file ?_ ha
      rw [foundBy, includes_eq_of_same hcomponents (hfiles m (h.sound m hm)) (hfiles model hmodel)]
      exact includes_iff.1 hincludes
  refine ⟨h.distinct, h.sound, hcomplete, fun file hfile => ?_,
    h.unmatched.trans (hseen.symm.flatMap_right _)⟩
  obtain ⟨m, hm, hcomponents⟩ := List.mem_map.1 (hcomplete file hfile)
  rw [← includes_eq_of_same hcomponents (hfiles m (h.sound m hm)) (hfiles file hfile)]
  exact h.expands m (hseen.mem_iff.1 hm)

theorem Complete.perm (hs : Complete base root admits initial s)
    (ht : Complete base root admits initial t)
    (hfiles : ∀ file, Discovered base root admits initial file → base.hasFile file) :
    (s.seen.map Path.components).Perm (t.seen.map Path.components) ∧
      s.unmatched.Perm t.unmatched := by
  have hseen : (s.seen.map Path.components).Perm (t.seen.map Path.components) := by
    refine (List.perm_ext_iff_of_nodup hs.distinct ht.distinct).2 fun c => ⟨?_, ?_⟩
    · intro hc
      obtain ⟨p, hp, rfl⟩ := List.mem_map.1 hc
      exact ht.complete p (hs.sound p hp)
    · intro hc
      obtain ⟨p, hp, rfl⟩ := List.mem_map.1 hc
      exact hs.complete p (ht.sound p hp)
  refine ⟨hseen, hs.unmatched.trans (List.Perm.trans ?_ ht.unmatched.symm)⟩
  refine flatMap_perm_of_map_perm hseen fun p hp q hq h => ?_
  exact unmatchedOf_eq_of_same h (hfiles p (hs.sound p hp)) (hfiles q (ht.sound q hq))

end LookML.Discovery
