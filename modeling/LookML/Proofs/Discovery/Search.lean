import LookML.Proofs.Discovery.Reachable
import Mathlib.Data.Finset.Card
import Mathlib.Data.List.Induction
import Mathlib.Logic.Relation
/-!
# Following includes one file after another

A step takes any file of the queue and adds what its includes name. Each step leaves less to be
done: files are queued once, and those that could ever be are known in advance. So every way of
serving the queue ends, and `Search.run`, which takes the last file, ends with nothing queued.
-/

namespace LookML.Discovery

open FileTree (Place)

section Patterns

variable [GlobLibrary]

/-- Whether an include asks for files of this project and names none. -/
def namesNothing (base : Place) (root : Path) (pattern : String) : Bool :=
  (includePattern? root pattern).any fun full => (expand base full).toOption.any List.isEmpty

/-- The includes of a file that name nothing, as they are reported. -/
def unmatchedOf (base : Place) (root file : Path) : List (String × String) :=
  ((includes base file).filter (namesNothing base root)).map fun pattern =>
    (root.relativeTo file, pattern)

def foundBy (base : Place) (root file : Path) : List Path :=
  (includes base file).flatMap (named base root)

def Expands (base : Place) (root : Path) (pattern : String) : Prop :=
  ∀ full, includePattern? root pattern = some full → ∃ found, expand base full = .ok found

theorem named_of_expand {base : Place} {root full : Path} {pattern : String} {found : List Path}
    (hfull : includePattern? root pattern = some full) (hfound : expand base full = .ok found) :
    Expands base root pattern ∧ named base root pattern = found ∧
      namesNothing base root pattern = found.isEmpty := by
  simp [Expands, named, namesNothing, hfull, hfound, Except.toOption]

theorem named_of_none {root : Path} {pattern : String} (base : Place)
    (hnone : includePattern? root pattern = none) :
    Expands base root pattern ∧ named base root pattern = [] ∧
      namesNothing base root pattern = false := by
  simp [Expands, named, namesNothing, hnone]

end Patterns

namespace Search

variable {base : Place} {root file : Path} {admits : Path → Bool} {s t : Search}

/-! ## What is new among the files found -/

/-- Files found that are admitted and not known yet, each once. -/
structure Fresh (admits : Path → Bool) (seen found new : List Path) : Prop where
  sound : ∀ p ∈ new, p ∈ found ∧ admits p
  distinct : (new.map Path.components).Nodup
  unseen : ∀ p ∈ new, p.components ∉ seen.map Path.components
  covers : ∀ p ∈ found, admits p → p.components ∈ (new ++ seen).map Path.components

theorem any_same_iff {p : Path} {seen : List Path} :
    seen.any p.same = true ↔ p.components ∈ seen.map Path.components := by
  simp only [List.any_eq_true, Path.same_iff, List.mem_map]
  exact exists_congr fun q => and_congr_right fun _ => eq_comm

theorem Fresh.skip {seen found new : List Path} {p : Path} (h : Fresh admits seen found new)
    (hp : admits p → p.components ∈ (new ++ seen).map Path.components) :
    Fresh admits seen (found ++ [p]) new where
  sound q hq := ⟨List.mem_append_left _ (h.sound q hq).1, (h.sound q hq).2⟩
  distinct := h.distinct
  unseen := h.unseen
  covers q hq ha := by
    obtain hq | hq := List.mem_append.1 hq
    · exact h.covers q hq ha
    · cases List.mem_singleton.1 hq
      exact hp ha

theorem Fresh.take {seen found new : List Path} {p : Path} (h : Fresh admits seen found new)
    (hp : admits p) (hnew : p.components ∉ (new ++ seen).map Path.components) :
    Fresh admits seen (found ++ [p]) (p :: new) := by
  rw [List.map_append, List.mem_append, not_or] at hnew
  refine ⟨?_, List.nodup_cons.2 ⟨hnew.1, h.distinct⟩, ?_, ?_⟩
  · refine List.forall_mem_cons.2 ⟨⟨by simp, hp⟩, fun q hq => ?_⟩
    exact ⟨List.mem_append_left _ (h.sound q hq).1, (h.sound q hq).2⟩
  · exact List.forall_mem_cons.2 ⟨hnew.2, h.unseen⟩
  · intro q hq ha
    obtain hq | hq := List.mem_append.1 hq
    · exact List.mem_cons_of_mem _ (h.covers q hq ha)
    · cases List.mem_singleton.1 hq
      exact List.mem_cons_self

theorem exists_fresh (admits : Path → Bool) (s : Search) (found : List Path) :
    ∃ new, found.foldl (add admits) s =
        { s with seen := new ++ s.seen, queue := new ++ s.queue } ∧
      Fresh admits s.seen found new := by
  induction found using List.reverseRecOn with
  | nil => exact ⟨[], rfl, by simp, by simp, by simp, by simp⟩
  | append_singleton found p ih =>
    obtain ⟨new, hfold, hfresh⟩ := ih
    rw [List.foldl_append, hfold, List.foldl_cons, List.foldl_nil, add]
    split
    · rename_i hp
      rw [Bool.and_eq_true, Bool.not_eq_true', ← Bool.not_eq_true, any_same_iff] at hp
      exact ⟨p :: new, rfl, hfresh.take hp.1 hp.2⟩
    · rename_i hp
      rw [Bool.and_eq_true, Bool.not_eq_true', ← Bool.not_eq_true, any_same_iff] at hp
      exact ⟨new, rfl, hfresh.skip fun ha => not_not.1 fun hknown => hp ⟨ha, hknown⟩⟩

/-- The search that begins with the given files. -/
def start (admits : Path → Bool) (first : List Path) : Search :=
  first.foldl (add admits) ⟨[], [], []⟩

theorem exists_start (admits : Path → Bool) (first : List Path) :
    ∃ new, start admits first = ⟨new, new, []⟩ ∧ Fresh admits [] first new := by
  obtain ⟨new, hfold, hfresh⟩ := exists_fresh admits ⟨[], [], []⟩ first
  refine ⟨new, ?_, hfresh⟩
  rw [start, hfold, List.append_nil]

/-! ## The includes of one file -/

def taking (admits : Path → Bool) (s : Search) (found : List Path)
    (missing : List (String × String)) : Search :=
  { found.foldl (add admits) s with unmatched := s.unmatched ++ missing }

theorem foldl_add_unmatched (s : Search) (found : List Path) (unmatched : List (String × String)) :
    found.foldl (add admits) { s with unmatched := unmatched } =
      { found.foldl (add admits) s with unmatched := unmatched } := by
  induction found generalizing s with
  | nil => rfl
  | cons p found ih =>
    have hadd : add admits { s with unmatched := unmatched } p =
        { add admits s p with unmatched := unmatched } := by
      unfold add
      split <;> rfl
    rw [List.foldl_cons, hadd, ih, List.foldl_cons]

theorem unmatched_foldl_add (s : Search) (found : List Path) :
    (found.foldl (add admits) s).unmatched = s.unmatched := by
  obtain ⟨new, hfold, -⟩ := exists_fresh admits s found
  rw [hfold]

theorem taking_taking (s : Search) (found found' : List Path)
    (missing missing' : List (String × String)) :
    taking admits (taking admits s found missing) found' missing' =
      taking admits s (found ++ found') (missing ++ missing') := by
  simp only [taking, foldl_add_unmatched, List.foldl_append, List.append_assoc]

variable [GlobLibrary]

theorem follow_eq_ok {pattern : String} : follow base root admits file s pattern = .ok t ↔
    Expands base root pattern ∧
      taking admits s (named base root pattern)
        (if namesNothing base root pattern then [(root.relativeTo file, pattern)] else []) = t := by
  unfold follow Expands named namesNothing taking
  cases hfull : includePattern? root pattern with
  | none => simp
  | some full =>
    cases hfound : expand base full with
    | error e => simp [bind, Except.bind, hfound]
    | ok found =>
      cases found with
      | nil => simp [bind, Except.bind, pure, Except.pure, hfound, Except.toOption]
      | cons p found =>
        have hunmatched : ((p :: found).foldl (add admits) s).unmatched = s.unmatched :=
          unmatched_foldl_add s (p :: found)
        simp [bind, Except.bind, pure, Except.pure, hfound, Except.toOption, ← hunmatched]

theorem foldlM_follow_eq_ok {patterns : List String} :
    patterns.foldlM (follow base root admits file) s = .ok t ↔
      (∀ pattern ∈ patterns, Expands base root pattern) ∧
        taking admits s (patterns.flatMap (named base root))
          ((patterns.filter (namesNothing base root)).map fun pattern =>
            (root.relativeTo file, pattern)) = t := by
  induction patterns generalizing s with
  | nil => simp [taking, pure, Except.pure]
  | cons pattern patterns ih =>
    have hmissing : ((pattern :: patterns).filter (namesNothing base root)).map
          (fun pattern => (root.relativeTo file, pattern)) =
        (if namesNothing base root pattern then [(root.relativeTo file, pattern)] else []) ++
          (patterns.filter (namesNothing base root)).map fun pattern =>
            (root.relativeTo file, pattern) := by
      by_cases h : namesNothing base root pattern <;> simp [h]
    rw [List.foldlM_cons, bind_eq_ok, List.forall_mem_cons, List.flatMap_cons, hmissing,
      ← taking_taking, and_assoc]
    constructor
    · rintro ⟨u, hu, h⟩
      obtain ⟨hexpands, rfl⟩ := follow_eq_ok.1 hu
      exact ⟨hexpands, ih.1 h⟩
    · rintro ⟨hexpands, h⟩
      exact ⟨_, follow_eq_ok.2 ⟨hexpands, rfl⟩, ih.2 h⟩

/-! ## Steps -/

/-- A queued file, whichever it is, is taken from the queue and its includes are followed. -/
inductive Step (base : Place) (root : Path) (admits : Path → Bool) : Search → Search → Prop where
  | follow {s t : Search} {before after : List Path} {file : Path}
      (queue : s.queue = before ++ file :: after)
      (includes : (includes base file).foldlM (Search.follow base root admits file)
        { s with queue := before ++ after } = .ok t) : Step base root admits s t

theorem exists_of_step (h : Step base root admits s t) : ∃ before file after new,
    s.queue = before ++ file :: after ∧
      (∀ pattern ∈ includes base file, Expands base root pattern) ∧
      Fresh admits s.seen (foundBy base root file) new ∧
      t = ⟨new ++ s.seen, new ++ (before ++ after), s.unmatched ++ unmatchedOf base root file⟩ := by
  obtain ⟨hqueue, hincludes⟩ := h
  rename_i before after file
  obtain ⟨hexpands, rfl⟩ := foldlM_follow_eq_ok.1 hincludes
  obtain ⟨new, hfold, hfresh⟩ :=
    exists_fresh admits { s with queue := before ++ after } (foundBy base root file)
  refine ⟨before, file, after, new, hqueue, hexpands, hfresh, ?_⟩
  rw [taking, ← foundBy, hfold]
  rfl

/-! ## The end of a search -/

/-- What is left to be done at most: the files queued and those that may still be found. -/
def remaining (base : Place) (root : Path) (s : Search) : Nat :=
  s.queue.length + (((reachable base root).map Path.components).toFinset \
    (s.seen.map Path.components).toFinset).card

theorem foundBy_subset_reachable (base : Place) (root file : Path) :
    foundBy base root file ⊆ reachable base root := by
  intro p hp
  obtain ⟨pattern, hpattern, hp⟩ := List.mem_flatMap.1 hp
  exact named_subset_reachable hpattern hp

theorem remaining_lt (h : Step base root admits s t) :
    remaining base root t < remaining base root s := by
  obtain ⟨before, file, after, new, hqueue, -, hfresh, rfl⟩ := exists_of_step h
  let known := (s.seen.map Path.components).toFinset
  let all := ((reachable base root).map Path.components).toFinset
  let taken := (new.map Path.components).toFinset
  have hcard : taken.card = new.length := by
    rw [List.toFinset_card_of_nodup hfresh.distinct, List.length_map]
  have htaken : taken ⊆ all \ known := by
    intro c hc
    obtain ⟨p, hp, rfl⟩ := List.mem_map.1 (List.mem_toFinset.1 hc)
    refine Finset.mem_sdiff.2 ⟨List.mem_toFinset.2 (List.mem_map_of_mem ?_), ?_⟩
    · exact foundBy_subset_reachable base root file (hfresh.sound p hp).1
    · exact fun hknown => hfresh.unseen p hp (List.mem_toFinset.1 hknown)
  have hrest : all \ ((new ++ s.seen).map Path.components).toFinset = (all \ known) \ taken := by
    rw [List.map_append, List.toFinset_append, Finset.union_comm]
    exact sdiff_sdiff_left.symm
  have hless := Finset.card_sdiff_add_card_eq_card htaken
  simp only [remaining, hqueue, List.length_append, List.length_cons]
  change new.length + (before.length + after.length) + (all \ _).card <
    before.length + (after.length + 1) + (all \ known).card
  rw [hrest]
  omega

theorem wellFounded_step (base : Place) (root : Path) (admits : Path → Bool) :
    WellFounded fun t s => Step base root admits s t :=
  Subrelation.wf remaining_lt (measure (remaining base root)).wf

/-- A search that has been given room for all that is left ends with nothing queued. -/
theorem steps_of_run {n : Nat} (h : run base root admits n s = .ok t) :
    Relation.ReflTransGen (Step base root admits) s t ∧
      (remaining base root s ≤ n → t.queue = []) := by
  induction n generalizing s with
  | zero =>
    cases h
    refine ⟨.refl, fun hn => ?_⟩
    have hlength : t.queue.length = 0 := by
      unfold remaining at hn
      omega
    exact List.eq_nil_of_length_eq_zero hlength
  | succ n ih =>
    unfold run at h
    split at h
    · rename_i hqueue
      cases h
      exact ⟨.refl, fun _ => hqueue⟩
    · rename_i file queue hqueue
      obtain ⟨u, hu, h⟩ := bind_eq_ok.1 h
      have hstep : Step base root admits s u :=
        .follow (show s.queue = [] ++ file :: queue from hqueue) hu
      obtain ⟨hsteps, hend⟩ := ih h
      refine ⟨.head hstep hsteps, fun hn => hend ?_⟩
      have hlt := remaining_lt hstep
      omega

theorem run_of_queue_eq_nil (n : Nat) (h : s.queue = []) : run base root admits n s = .ok s := by
  cases n with
  | zero => rfl
  | succ n => rw [run, h]

theorem run_cons {queue : List Path} (hqueue : s.queue = file :: queue)
    (hexpands : ∀ pattern ∈ includes base file, Expands base root pattern) (n : Nat) :
    run base root admits (n + 1) s = run base root admits n
      (taking admits { s with queue := queue } (foundBy base root file)
        (unmatchedOf base root file)) := by
  have hfollow : (includes base file).foldlM (follow base root admits file)
      { s with queue := queue } =
        .ok (taking admits { s with queue := queue } (foundBy base root file)
          (unmatchedOf base root file)) :=
    foldlM_follow_eq_ok.2 ⟨hexpands, rfl⟩
  rw [run, hqueue]
  dsimp only
  rw [hfollow]
  rfl

theorem run_add (m n : Nat) (s : Search) : run base root admits (m + n) s =
    run base root admits m s >>= run base root admits n := by
  induction m generalizing s with
  | zero =>
    rw [Nat.zero_add]
    rfl
  | succ m ih =>
    rw [Nat.add_right_comm, run, run]
    split
    · rename_i hqueue
      exact (run_of_queue_eq_nil n hqueue).symm
    · simp only [ih, bind_assoc]

/-- However far a search came when nothing was queued any more, enough room comes to the same. -/
theorem run_eq_of_remaining_le {m n : Nat} (h : run base root admits m s = .ok t)
    (hqueue : t.queue = []) (hn : remaining base root s ≤ n) :
    run base root admits n s = .ok t := by
  obtain hle | hle := Nat.le_total m n
  · obtain ⟨k, rfl⟩ := Nat.exists_eq_add_of_le hle
    rw [run_add, h]
    exact run_of_queue_eq_nil k hqueue
  · obtain ⟨k, rfl⟩ := Nat.exists_eq_add_of_le hle
    rw [run_add] at h
    obtain ⟨u, hu, h⟩ := bind_eq_ok.1 h
    have hend := (steps_of_run hu).2 hn
    rw [run_of_queue_eq_nil k hend] at h
    cases h
    exact hu

theorem remaining_start_le (base : Place) (root : Path) (admits : Path → Bool)
    (first : List Path) :
    remaining base root (start admits first) ≤ first.length + (reachable base root).length := by
  obtain ⟨new, hstart, hfresh⟩ := exists_start admits first
  have hnew : new.length ≤ first.length :=
    (List.subperm_of_subset (List.Nodup.of_map _ hfresh.distinct) fun p hp =>
      (hfresh.sound p hp).1).length_le
  have hreachable := List.toFinset_card_le ((reachable base root).map Path.components)
  rw [List.length_map] at hreachable
  rw [hstart, remaining]
  refine Nat.add_le_add hnew (le_trans ?_ hreachable)
  exact Finset.card_le_card Finset.sdiff_subset

end Search

end LookML.Discovery
