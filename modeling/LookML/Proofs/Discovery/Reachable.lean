import LookML.Discovery
import LookML.Proofs.Document.Includes
import LookML.Proofs.FileTree
/-!
# What includes can reach

Where a path leads is inside the current directory or a directory above it, at some depth. So a
model file that can be read is among all those that a search could ever come to, and so is what it
includes: there are finitely many files to be found.
-/

namespace LookML

open FileTree (Place)

namespace FileTree

/-- The tree has an entry of the given name inside, at any depth. -/
inductive Under : FileTree → String → FileTree → Prop where
  | entry {t u : FileTree} {name : String} (h : (name, u) ∈ t.entries) : Under t name u
  | deeper {t u v : FileTree} {name name' : String} (h : (name', v) ∈ t.entries)
      (inside : Under v name u) : Under t name u

variable {t u v : FileTree} {name name' : String}

theorem Under.snoc (h : Under t name u) (hv : (name', v) ∈ u.entries) : Under t name' v := by
  induction h with
  | entry h => exact .deeper h (.entry hv)
  | deeper h _ ih => exact .deeper h (ih hv)

theorem mem_insideEntries {entries : List (String × FileTree)} (h : (name, t) ∈ entries) :
    (name, t) ∈ insideEntries entries ∧ t.inside ⊆ insideEntries entries := by
  induction entries with
  | nil => cases h
  | cons e entries ih =>
    obtain ⟨n, u⟩ := e
    rw [insideEntries]
    obtain heq | h := List.mem_cons.1 h
    · cases heq
      exact ⟨List.mem_cons_self, fun e he => List.mem_cons_of_mem _ (List.mem_append_left _ he)⟩
    · obtain ⟨hmem, hsub⟩ := ih h
      exact ⟨List.mem_cons_of_mem _ (List.mem_append_right _ hmem),
        fun e he => List.mem_cons_of_mem _ (List.mem_append_right _ (hsub he))⟩

theorem Under.mem_inside (h : Under t name u) : (name, u) ∈ t.inside := by
  induction h with
  | @entry t u name h =>
    cases t with
    | file content => cases h
    | directory entries => exact (mem_insideEntries h).1
  | @deeper t u v name name' h _ ih =>
    cases t with
    | file content => cases h
    | directory entries => exact (mem_insideEntries h).2 ih

namespace Place

variable {base p q : Place} {path : Path} {segment : String}

def Contains (base : Place) (t : FileTree) : Prop :=
  ∃ top ∈ base.here :: base.above, t = top ∨ ∃ name, Under top name t

theorem contains_of_moves (hp : ∀ t ∈ p.here :: p.above, base.Contains t)
    (h : p.Moves segment q) : ∀ t ∈ q.here :: q.above, base.Contains t := by
  cases h with
  | stay | atTop => exact hp
  | up _ above =>
    rw [← above]
    exact (List.forall_mem_cons.1 hp).2
  | into _ entry =>
    refine List.forall_mem_cons.2 ⟨?_, hp⟩
    obtain ⟨top, htop, heq | ⟨name, hunder⟩⟩ := (List.forall_mem_cons.1 hp).1
    · exact ⟨top, htop, .inr ⟨segment, .entry (heq ▸ mem_of_lookup entry)⟩⟩
    · exact ⟨top, htop, .inr ⟨segment, hunder.snoc (mem_of_lookup entry)⟩⟩

theorem contains_of_foldlM {segments : List String} (hp : ∀ t ∈ p.here :: p.above, base.Contains t)
    (h : segments.foldlM step p = some q) : ∀ t ∈ q.here :: q.above, base.Contains t := by
  induction segments generalizing p with
  | nil =>
    cases h
    exact hp
  | cons s segments ih =>
    rw [List.foldlM_cons] at h
    obtain ⟨r, hr, h⟩ := Option.bind_eq_some_iff.1 h
    exact ih (contains_of_moves hp (moves_of_step hr).2) h

theorem contains_start (base : Place) (path : Path) :
    ∀ t ∈ (base.start path).here :: (base.start path).above, base.Contains t := by
  unfold start
  split
  · intro t ht
    obtain rfl : t = base.top.here := by simpa [Place.top] using ht
    exact ⟨_, base.mem_top, .inl rfl⟩
  · exact fun t ht => ⟨t, ht, .inl rfl⟩

theorem exists_under_of_follow? {name : String} {content : ByteArray} {above : List FileTree}
    (hname : path.fileName? = some name) (h : base.follow? path = some ⟨.file content, above⟩) :
    ∃ top ∈ base.here :: base.above, Under top name (.file content) := by
  obtain ⟨-, h⟩ := follow?_eq_some_iff.1 h
  obtain ⟨front, last, hsegments⟩ := path.exists_segments
  rw [hsegments, List.foldlM_append] at h
  obtain ⟨p, hp, h⟩ := Option.bind_eq_some_iff.1 h
  obtain ⟨hdirectory, hmoves⟩ := moves_of_step (by simpa using h)
  have hlast : path.components.getLast? = some (.name name) := by
    unfold Path.fileName? at hname
    split at hname <;> cases hname
    assumption
  cases hmoves with
  | stay | atTop => cases hdirectory
  | up hup =>
    rw [Path.getLast?_components hsegments (by rw [hup]; rfl)] at hlast
    cases hlast
  | into hcomponent entry =>
    rw [Path.getLast?_components hsegments hcomponent] at hlast
    cases hlast
    have hmem := mem_of_lookup entry
    obtain ⟨top, htop, heq | ⟨name', hunder⟩⟩ :=
      contains_of_foldlM (contains_start base path) hp p.here List.mem_cons_self
    · exact ⟨top, htop, .entry (heq ▸ hmem)⟩
    · exact ⟨top, htop, hunder.snoc hmem⟩

end Place

end FileTree

namespace Discovery

variable {base : Place} {root p q : Path}

theorem includesIn_of_path (path path' : Path) (text : String) :
    includesIn path text = includesIn path' text := by
  unfold includesIn
  cases hparse : Document.parse path.text text with
  | ok d =>
    obtain ⟨d', hparse', hincludes⟩ := Document.exists_of_parse path'.text hparse
    simp only [hparse', hincludes]
  | error e =>
    cases hparse' : Document.parse path'.text text with
    | error e' => rfl
    | ok d' =>
      obtain ⟨d, hd, -⟩ := Document.exists_of_parse path.text hparse'
      cases hparse.symm.trans hd

theorem mem_includes_iff {file : Path} {pattern : String} : pattern ∈ includes base file ↔
    ∃ name text document, file.fileName? = some name ∧ Document.isModelName name ∧
      base.read file = .ok text ∧ Document.parse file.text text = .ok document ∧
        pattern ∈ document.includes := by
  constructor
  · intro h
    unfold includes at h
    split at h
    · rename_i hmodel
      split at h
      · cases h
      · rename_i text hread
        unfold includesIn at h
        split at h
        · cases h
        · rename_i document hparse
          obtain ⟨name, hname, hmodel⟩ := (Option.any_eq_true _ _).1 hmodel
          exact ⟨name, text, document, hname, hmodel, hread, hparse, h⟩
    · cases h
  · rintro ⟨name, text, document, hname, hmodel, hread, hparse, h⟩
    simpa [includes, includesIn, hname, hmodel, hread, hparse] using h

theorem includes_eq_of_same (h : p.components = q.components) (hp : base.hasFile p)
    (hq : base.hasFile q) : includes base p = includes base q := by
  obtain ⟨x, hx, -⟩ := (Option.any_eq_true _ _).1 hp
  obtain ⟨y, hy, -⟩ := (Option.any_eq_true _ _).1 hq
  cases Place.follow?_eq_of_same h hx hy
  have hread : base.read p = base.read q := by
    unfold Place.read
    rw [hx, hy]
  unfold includes
  rw [Path.fileName?_eq_of_same h, hread]
  simp only [includesIn_of_path p q]

theorem mem_modelTexts {path : Path} {name text : String}
    (hname : path.fileName? = some name) (hmodel : Document.isModelName name)
    (h : base.read path = .ok text) : (name, text) ∈ modelTexts base := by
  obtain ⟨content, above, hfollow, htext⟩ := Place.read_eq_ok_iff.1 h
  obtain ⟨top, htop, hunder⟩ := Place.exists_under_of_follow? hname hfollow
  refine List.mem_filterMap.2 ⟨_, List.mem_flatMap.2 ⟨top, htop, hunder.mem_inside⟩, ?_⟩
  simp only [hmodel, if_true, htext, Option.map_some]

theorem exists_mem_includesIn {file : Path} {pattern : String} (h : pattern ∈ includes base file) :
    ∃ entry ∈ modelTexts base, pattern ∈ includesIn ⟨entry.1⟩ entry.2 := by
  obtain ⟨name, text, document, hname, hmodel, hread, hparse, hpattern⟩ := mem_includes_iff.1 h
  refine ⟨(name, text), mem_modelTexts hname hmodel hread, ?_⟩
  rw [includesIn_of_path ⟨name⟩ file, includesIn, hparse]
  exact hpattern

variable [GlobLibrary]

/-- The files that an include names: none if it is about another project. -/
def named (base : Place) (root : Path) (pattern : String) : List Path :=
  match includePattern? root pattern with
  | none => []
  | some full => (expand base full).toOption.getD []

theorem named_subset_reachable {file : Path} {pattern : String}
    (h : pattern ∈ includes base file) : named base root pattern ⊆ reachable base root := by
  obtain ⟨entry, hentry, hin⟩ := exists_mem_includesIn h
  intro found hfound
  unfold named at hfound
  split at hfound
  · cases hfound
  · rename_i full hfull
    exact List.mem_flatMap.2 ⟨entry, hentry, List.mem_flatMap.2
      ⟨full, List.mem_filterMap.2 ⟨pattern, hin, hfull⟩, hfound⟩⟩

end Discovery

end LookML
