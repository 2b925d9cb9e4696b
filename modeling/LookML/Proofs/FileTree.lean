import LookML.FileTree
import LookML.Proofs.Keyed
import LookML.Proofs.Path
/-!
# Where paths lead

In a well-formed tree every entry of a directory has a name of its own, which a path can spell. Two
paths with the same components that both lead somewhere lead to the same place, and joining a name
to a path goes on by one step.
-/

namespace LookML.FileTree

/-- Whether an entry of a directory can have the name. -/
def IsName (name : String) : Prop :=
  name ≠ "" ∧ name ≠ "." ∧ name ≠ ".." ∧ '/' ∉ name.toList

instance (name : String) : Decidable (IsName name) :=
  inferInstanceAs (Decidable (_ ∧ _))

/-- The entries of each directory have names, each a different one. -/
inductive WellFormed : FileTree → Prop where
  | file (content : ByteArray) : WellFormed (file content)
  | directory {entries : List (String × FileTree)} (names : ∀ e ∈ entries, IsName e.1)
      (distinct : (entries.map Prod.fst).Nodup) (inside : ∀ e ∈ entries, WellFormed e.2) :
      WellFormed (directory entries)

theorem mem_of_lookup {entries : List (String × FileTree)} {name : String} {t : FileTree}
    (h : entries.lookup name = some t) : (name, t) ∈ entries := by
  obtain ⟨before, after, rfl, -⟩ := List.lookup_eq_some_iff.1 h
  simp

theorem lookup_of_mem {entries : List (String × FileTree)} (h : (entries.map Prod.fst).Nodup)
    {e : String × FileTree} (he : e ∈ entries) : entries.lookup e.1 = some e.2 := by
  obtain ⟨before, after, rfl⟩ := List.append_of_mem he
  refine List.lookup_eq_some_iff.2 ⟨before, after, rfl, fun p hp => ?_⟩
  rw [List.map_append, List.nodup_append] at h
  have hne := h.2.2 p.1 (List.mem_map_of_mem hp) e.1 (by simp)
  simpa using hne.symm

theorem WellFormed.of_mem_entries {t : FileTree} (h : t.WellFormed) {e : String × FileTree}
    (he : e ∈ t.entries) : e.2.WellFormed ∧ IsName e.1 ∧ t.entries.lookup e.1 = some e.2 := by
  cases h with
  | file content => cases he
  | directory names distinct inside =>
    exact ⟨inside e he, names e he, lookup_of_mem distinct he⟩

theorem WellFormed.of_lookup {t u : FileTree} (h : t.WellFormed) {name : String}
    (hu : t.entries.lookup name = some u) : u.WellFormed :=
  (h.of_mem_entries (mem_of_lookup hu)).1

theorem WellFormed.insert {t added : FileTree} (ht : t.WellFormed) (hadded : added.WellFormed)
    {names : List String} (hnames : ∀ name ∈ names, IsName name) :
    (t.insert names added).WellFormed := by
  induction names generalizing t with
  | nil => rwa [FileTree.insert]
  | cons name names ih =>
    obtain ⟨hname, hnames⟩ := List.forall_mem_cons.1 hnames
    have hold : ((t.entries.lookup name).getD (.directory [])).WellFormed := by
      cases hlookup : t.entries.lookup name with
      | none => exact .directory (by simp) (by simp) (by simp)
      | some u => exact ht.of_lookup hlookup
    have hdistinct : (t.entries.map Prod.fst).Nodup := by
      cases ht with
      | file content => exact List.nodup_nil
      | directory _ distinct _ => exact distinct
    rw [FileTree.insert]
    refine .directory ?_ (Keyed.nodup_put (fun _ _ _ => rfl) hdistinct) ?_
    · refine Keyed.forall_mem_put (fun _ _ => hname) hname ?_
      exact fun e he => (ht.of_mem_entries he).2.1
    · refine Keyed.forall_mem_put (fun _ _ => ih hold hnames) (ih hold hnames) ?_
      exact fun e he => (ht.of_mem_entries he).1

namespace Place

variable {p q base : Place} {path path' d : Path} {name segment : String}

/-- What is here and above is well formed, and what is above has something inside. -/
structure WellFormed (p : Place) : Prop where
  here : p.here.WellFormed
  above : ∀ t ∈ p.above, t.WellFormed ∧ t.isDirectory

theorem mem_top (p : Place) : p.top.here ∈ p.here :: p.above :=
  List.getLast_mem _

theorem WellFormed.top (h : p.WellFormed) : p.top.WellFormed where
  here := by
    obtain heq | habove := List.mem_cons.1 p.mem_top
    · rw [heq]
      exact h.here
    · exact (h.above _ habove).1
  above := List.forall_mem_nil _

theorem WellFormed.isDirectory_top (h : p.WellFormed) (hhere : p.here.isDirectory) :
    p.top.here.isDirectory := by
  obtain heq | habove := List.mem_cons.1 p.mem_top
  · rwa [heq]
  · exact (h.above _ habove).2

/-! ## Steps -/

/-- Where a step from a directory leads. -/
inductive Moves (p : Place) (segment : String) : Place → Prop where
  | stay (h : Path.component? segment = none) : Moves p segment p
  | atTop (h : segment = "..") (above : p.above = []) : Moves p segment p
  | up (h : segment = "..") {parent : FileTree} {rest : List FileTree}
      (above : p.above = parent :: rest) : Moves p segment ⟨parent, rest⟩
  | into (h : Path.component? segment = some (.name segment)) {t : FileTree}
      (entry : p.here.entries.lookup segment = some t) : Moves p segment ⟨t, p.here :: p.above⟩

theorem moves_of_step (h : p.step segment = some q) :
    p.here.isDirectory ∧ p.Moves segment q := by
  unfold step at h
  split at h
  · cases h
  · rename_i entries hhere
    refine ⟨by rw [hhere]; rfl, ?_⟩
    split at h
    · rename_i hdots
      cases h
      exact .stay (if_pos hdots)
    · rename_i hdots
      split at h
      · rename_i hup
        split at h <;> rename_i habove <;> cases h
        · exact .atTop hup habove
        · exact .up hup habove
      · rename_i hup
        obtain ⟨t, ht, rfl⟩ := Option.map_eq_some_iff.1 h
        refine .into ?_ (by rwa [hhere])
        unfold Path.component?
        rw [if_neg hdots, if_neg hup]

theorem step_of_component?_eq_none (h : Path.component? segment = none)
    (hp : p.here.isDirectory) : p.step segment = some p := by
  obtain ⟨here, above⟩ := p
  cases here with
  | file content => cases hp
  | directory entries =>
    refine if_pos ?_
    by_contra hdots
    unfold Path.component? at h
    rw [if_neg hdots] at h
    split at h <;> cases h

theorem step_of_isName (h : IsName name) {t : FileTree}
    (ht : p.here.entries.lookup name = some t) : p.step name = some ⟨t, p.here :: p.above⟩ := by
  obtain ⟨here, above⟩ := p
  cases here with
  | file content => cases ht
  | directory entries =>
    obtain ⟨hempty, hdot, hup, -⟩ := h
    have ht' : entries.lookup name = some t := ht
    simp [step, hempty, hdot, hup, ht']

theorem WellFormed.step (h : p.WellFormed) (hq : p.step segment = some q) : q.WellFormed := by
  obtain ⟨hdirectory, hmoves⟩ := moves_of_step hq
  cases hmoves with
  | stay | atTop => exact h
  | up _ above =>
    exact ⟨(h.above _ (by simp [above])).1, fun t ht => h.above t (by simp [above, ht])⟩
  | into _ entry =>
    refine ⟨h.here.of_lookup entry, List.forall_mem_cons.2 ⟨⟨h.here, hdirectory⟩, h.above⟩⟩

theorem WellFormed.isDirectory_of_step (h : p.WellFormed) (hq : p.step ".." = some q) :
    q.here.isDirectory := by
  obtain ⟨hdirectory, hmoves⟩ := moves_of_step hq
  cases hmoves with
  | stay | atTop => exact hdirectory
  | up _ above => exact (h.above _ (by simp [above])).2
  | into hname => simp [Path.component?] at hname

/-! ## Paths -/

def start (base : Place) (path : Path) : Place :=
  if path.isAbsolute then base.top else base

theorem follow?_eq_some_iff : base.follow? path = some p ↔
    path.text ≠ "" ∧ path.segments.foldlM Place.step (base.start path) = some p := by
  by_cases h : path.text = "" <;> simp [follow?, start, h]

theorem WellFormed.start (h : base.WellFormed) (path : Path) : (base.start path).WellFormed := by
  unfold Place.start
  split
  · exact h.top
  · exact h

theorem WellFormed.foldlM_step (h : p.WellFormed) {segments : List String}
    (hq : segments.foldlM Place.step p = some q) : q.WellFormed := by
  induction segments generalizing p with
  | nil =>
    cases hq
    exact h
  | cons s segments ih =>
    rw [List.foldlM_cons] at hq
    obtain ⟨r, hr, hq⟩ := Option.bind_eq_some_iff.1 hq
    exact ih (h.step hr) hq

theorem WellFormed.follow? (h : base.WellFormed) (hp : base.follow? path = some p) :
    p.WellFormed :=
  (h.start path).foldlM_step (follow?_eq_some_iff.1 hp).2

theorem foldlM_step_filter {segments : List String}
    (h : segments.foldlM Place.step p = some q) :
    (segments.filter fun s => (Path.component? s).isSome).foldlM Place.step p = some q := by
  induction segments generalizing p with
  | nil => exact h
  | cons s segments ih =>
    rw [List.foldlM_cons] at h
    obtain ⟨r, hr, h⟩ := Option.bind_eq_some_iff.1 h
    cases hs : Path.component? s with
    | none =>
      rw [step_of_component?_eq_none hs (moves_of_step hr).1] at hr
      cases hr
      simpa [hs] using ih h
    | some c => simpa [hs, hr] using ih h

theorem follow?_eq_of_same (h : path.components = path'.components)
    (hp : base.follow? path = some p) (hq : base.follow? path' = some q) : p = q := by
  have hp' := foldlM_step_filter (follow?_eq_some_iff.1 hp).2
  have hq' := foldlM_step_filter (follow?_eq_some_iff.1 hq).2
  rw [start, Path.isAbsolute_eq_of_same h, Path.filter_segments_eq_of_same h] at hp'
  exact Option.some.inj (hp'.symm.trans hq')

/-- Slashes at the start lead nowhere else. -/
theorem foldlM_step_dropWhile {segments : List String}
    (h : segments.foldlM Place.step p = some q) :
    (segments.dropWhile (· = "")).foldlM Place.step p = some q := by
  induction segments with
  | nil => exact h
  | cons s segments ih =>
    by_cases hs : s = ""
    · rw [List.dropWhile_cons_of_pos (by simpa using hs)]
      rw [List.foldlM_cons] at h
      obtain ⟨r, hr, h⟩ := Option.bind_eq_some_iff.1 h
      rw [step_of_component?_eq_none (hs ▸ rfl) (moves_of_step hr).1] at hr
      cases hr
      exact ih h
    · rwa [List.dropWhile_cons_of_neg (by simpa using hs)]

/-- A slash at the end leads nowhere else. -/
theorem foldlM_step_parts (h : path.segments.foldlM Place.step p = some q) :
    path.parts.foldlM Place.step p = some q := by
  obtain heq | heq := path.segments_eq_parts
  · rwa [heq] at h
  · rw [heq, List.foldlM_append] at h
    obtain ⟨r, hr, h⟩ := Option.bind_eq_some_iff.1 h
    obtain ⟨s, hs, h⟩ := Option.bind_eq_some_iff.1 (by rwa [List.foldlM_cons] at h)
    rw [step_of_component?_eq_none rfl (moves_of_step hs).1] at hs
    cases hs
    cases h
    exact hr

theorem follow?_join (hd : base.follow? d = some p) (hname : '/' ∉ name.toList)
    (hq : p.step name = some q) : base.follow? (d.join name) = some q := by
  obtain ⟨htext, hp⟩ := follow?_eq_some_iff.1 hd
  have hstart : base.start (d.join name) = base.start d := by
    rw [start, Path.isAbsolute_join htext, start]
  refine follow?_eq_some_iff.2 ⟨Path.text_join_ne htext name, ?_⟩
  rw [Path.segments_join htext, Path.segments_of_notMem hname, hstart, List.foldlM_append,
    foldlM_step_parts hp]
  simpa using hq

theorem read_eq_ok_iff {text : String} : base.read path = .ok text ↔
    ∃ content above, base.follow? path = some ⟨.file content, above⟩ ∧
      String.fromUTF8? content = some text := by
  unfold read
  split
  · simp_all
  · simp_all
  · split <;> simp_all

theorem follow?_of_components_eq_current (h : d.components = [.current])
    (hd : base.follow? d = some p) : p = base := by
  have hp := foldlM_step_filter (follow?_eq_some_iff.1 hd).2
  have habsolute : ¬ d.isAbsolute := by simp [Path.isAbsolute_iff, h]
  rw [Path.filter_segments, h, start, if_neg habsolute] at hp
  exact (Option.some.inj hp).symm

theorem follow?_mk (hname : '/' ∉ name.toList) (hne : name ≠ "") :
    base.follow? ⟨name⟩ = base.step name := by
  simp [follow?, hne, Path.isAbsolute_of_notMem hname, Path.segments_of_notMem hname]

end Place

end LookML.FileTree
