import LookML.Path
import LookML.Proofs.Sorting
import Mathlib.Data.List.DropRight
/-!
# Paths and their components

Paths are compared by their components. What a path shows and what it is called depends on its
components alone, and so does where it leads: `segments` with neither empty texts nor dots.
-/

namespace LookML.Path

open Std

namespace Component

theorem order_eq_compareLex : order = compareLex (compareOn rank) (compareOn text) := rfl

instance : TransCmp order := by
  rw [order_eq_compareLex]
  infer_instance

instance : LawfulEqCmp order where
  compare_self := by
    intro c
    simp [order]
  eq_of_compare := by
    intro a b h
    simp only [order, Ordering.then_eq_eq, LawfulEqOrd.compare_eq_iff_eq] at h
    cases a <;> cases b <;> simp_all [rank, text]

end Component

variable {p q d : Path} {name : String}

@[simp] theorem same_iff : p.same q = true ↔ p.components = q.components := by
  simp [same]

instance : TransCmp order :=
  transCmp_on (inferInstanceAs (TransCmp (List.compareLex Component.order))) components

theorem components_eq_of_order (h : p.order q = .eq) : p.components = q.components :=
  LawfulEqCmp.eq_of_compare (show List.compareLex Component.order _ _ = .eq from h)

theorem relativeTo_eq_of_same (directory : Path) (h : p.components = q.components) :
    directory.relativeTo p = directory.relativeTo q := by
  simp only [relativeTo, h]

theorem fileName?_eq_of_same (h : p.components = q.components) : p.fileName? = q.fileName? := by
  simp only [fileName?, h]

theorem eq_of_toList_text (h : p.text.toList = q.text.toList) : p = q := by
  obtain ⟨text⟩ := p
  exact congrArg mk (String.toList_injective h)

/-! ## Segments -/

theorem splitSlashes_of_notMem {cs : List Char} (h : '/' ∉ cs) : splitSlashes cs = [cs] := by
  induction cs with
  | nil => rfl
  | cons c cs ih =>
    obtain ⟨hc, hcs⟩ := List.ne_and_not_mem_of_not_mem_cons h
    simp only [splitSlashes, ih hcs, if_neg hc.symm]

theorem splitSlashes_append_slash (cs ds : List Char) :
    splitSlashes (cs ++ '/' :: ds) = splitSlashes cs ++ splitSlashes ds := by
  induction cs with
  | nil =>
    obtain ⟨s, rest, hs⟩ := List.exists_cons_of_ne_nil (splitSlashes_ne_nil ds)
    simp [splitSlashes, hs]
  | cons c cs ih =>
    obtain ⟨s, rest, hs⟩ := List.exists_cons_of_ne_nil (splitSlashes_ne_nil cs)
    by_cases hc : c = '/' <;> simp [splitSlashes, ih, hs, hc]

theorem notMem_of_mem_splitSlashes {cs s : List Char} (h : s ∈ splitSlashes cs) : '/' ∉ s := by
  induction cs generalizing s with
  | nil => simp_all [splitSlashes]
  | cons c cs ih =>
    obtain ⟨t, rest, ht⟩ := List.exists_cons_of_ne_nil (splitSlashes_ne_nil cs)
    rw [ht] at ih
    by_cases hc : c = '/'
    · simp only [splitSlashes, ht, if_pos hc, List.mem_cons] at h
      obtain rfl | h := h
      · exact List.not_mem_nil
      · exact ih (List.mem_cons.2 h)
    · simp only [splitSlashes, ht, if_neg hc, List.mem_cons] at h
      obtain rfl | h := h
      · exact List.not_mem_cons_of_ne_of_not_mem (Ne.symm hc) (ih List.mem_cons_self)
      · exact ih (List.mem_cons_of_mem t h)

theorem infix_of_mem_splitSlashes {cs s : List Char} (h : s ∈ splitSlashes cs) : s <:+: cs := by
  suffices hsplit : ∀ first rest, splitSlashes cs = first :: rest →
      first <+: cs ∧ ∀ t ∈ rest, t <:+: cs by
    obtain ⟨first, rest, hcs⟩ := List.exists_cons_of_ne_nil (splitSlashes_ne_nil cs)
    obtain ⟨hfirst, hrest⟩ := hsplit first rest hcs
    obtain rfl | hs := List.mem_cons.1 (hcs ▸ h)
    · exact hfirst.isInfix
    · exact hrest s hs
  clear h s
  induction cs with
  | nil =>
    rintro first rest ⟨⟩
    exact ⟨List.prefix_rfl, by simp⟩
  | cons c cs ih =>
    intro first rest hcs
    obtain ⟨t, ts, ht⟩ := List.exists_cons_of_ne_nil (splitSlashes_ne_nil cs)
    obtain ⟨hfirst, hrest⟩ := ih t ts ht
    have htail : cs <:+: c :: cs := (List.suffix_cons c cs).isInfix
    have hinner : ∀ u ∈ ts, u <:+: c :: cs := fun u hu => (hrest u hu).trans htail
    by_cases hc : c = '/'
    · simp only [splitSlashes, ht, if_pos hc] at hcs
      cases hcs
      exact ⟨List.nil_prefix, List.forall_mem_cons.2 ⟨hfirst.isInfix.trans htail, hinner⟩⟩
    · simp only [splitSlashes, ht, if_neg hc] at hcs
      cases hcs
      exact ⟨List.cons_prefix_cons.2 ⟨rfl, hfirst⟩, hinner⟩

theorem notMem_of_mem_segments {segment : String} (h : segment ∈ p.segments) :
    '/' ∉ segment.toList := by
  obtain ⟨s, hs, rfl⟩ := List.mem_map.1 h
  rw [String.toList_ofList]
  exact notMem_of_mem_splitSlashes hs

theorem segments_ne_nil (p : Path) : p.segments ≠ [] := by
  simpa [segments] using splitSlashes_ne_nil p.text.toList

theorem head?_segments_of_isAbsolute (h : p.isAbsolute) : p.segments.head? = some "" := by
  obtain ⟨cs, hcs⟩ := List.head?_eq_some_iff.1 (of_decide_eq_true h)
  obtain ⟨s, rest, hs⟩ := List.exists_cons_of_ne_nil (splitSlashes_ne_nil cs)
  simp [segments, hcs, splitSlashes, hs]

theorem head?_segments_ne {c : Char} {cs : List Char} (h : p.text.toList = c :: cs)
    (hc : c ≠ '/') : p.segments.head? ≠ some "" := by
  obtain ⟨s, rest, hs⟩ := List.exists_cons_of_ne_nil (splitSlashes_ne_nil cs)
  simp [segments, h, splitSlashes, hs, hc]

theorem getLast?_splitSlashes_append {ending : List Char} (hne : ending ≠ [])
    (hslash : '/' ∉ ending) (front : List Char) :
    (splitSlashes (front ++ ending)).getLast? ≠ some [] := by
  induction front with
  | nil => simpa [splitSlashes_of_notMem hslash] using hne
  | cons c front ih =>
    obtain ⟨s, rest, hs⟩ := List.exists_cons_of_ne_nil (splitSlashes_ne_nil (front ++ ending))
    rw [hs] at ih
    by_cases hc : c = '/'
    · simpa [splitSlashes, hs, hc] using ih
    · cases rest with
      | nil => simp [splitSlashes, hs, hc]
      | cons t rest => simpa [splitSlashes, hs, hc] using ih

theorem getLast?_segments_ne {ending : List Char} (h : ending <:+ p.text.toList)
    (hne : ending ≠ []) (hslash : '/' ∉ ending) : p.segments.getLast? ≠ some "" := by
  obtain ⟨front, hfront⟩ := h
  rw [segments, List.getLast?_map, ← hfront]
  intro hlast
  obtain ⟨last, hlast, hempty⟩ := Option.map_eq_some_iff.1 hlast
  rw [String.ofList_eq_empty_iff.1 hempty] at hlast
  exact getLast?_splitSlashes_append hne hslash front hlast

theorem exists_segments (p : Path) : ∃ front last, p.segments = front ++ [last] := by
  obtain h | ⟨front, last, h⟩ := List.eq_nil_or_concat p.segments
  · exact absurd h p.segments_ne_nil
  · exact ⟨front, last, by rw [h, List.concat_eq_append]⟩

theorem isAbsolute_of_notMem (h : '/' ∉ name.toList) : isAbsolute ⟨name⟩ = false :=
  decide_eq_false fun hhead => h (List.mem_of_mem_head? hhead)

theorem segments_of_notMem (h : '/' ∉ name.toList) : segments ⟨name⟩ = [name] := by
  simp [segments, splitSlashes_of_notMem h]

/-! ## Joining -/

/-- The text of the path, without a slash at its end. -/
def stem (p : Path) : List Char :=
  if p.text.toList.getLast? = some '/' then p.text.toList.dropLast else p.text.toList

/-- The texts between the slashes, but for what follows a slash at the end. -/
def parts (p : Path) : List String :=
  (splitSlashes p.stem).map String.ofList

theorem toList_text (p : Path) : p.text.toList = p.stem ∨ p.text.toList = p.stem ++ ['/'] := by
  by_cases hlast : p.text.toList.getLast? = some '/'
  · obtain ⟨cs, hcs⟩ := List.getLast?_eq_some_iff.1 hlast
    exact .inr (by simp [stem, hcs])
  · exact .inl (if_neg hlast).symm

theorem stem_prefix (p : Path) : p.stem <+: p.text.toList := by
  obtain htext | htext := p.toList_text
  · exact htext ▸ List.prefix_rfl
  · exact ⟨['/'], htext.symm⟩

theorem toList_text_join (hd : d.text ≠ "") (inner : String) :
    (d.join inner).text.toList = d.stem ++ '/' :: inner.toList := by
  by_cases hlast : d.text.toList.getLast? = some '/'
  · obtain ⟨cs, hcs⟩ := List.getLast?_eq_some_iff.1 hlast
    simp [join, stem, hcs]
  · simp [join, stem, hd, hlast]

theorem segments_eq_parts (p : Path) : p.segments = p.parts ∨ p.segments = p.parts ++ [""] := by
  obtain htext | htext := p.toList_text
  · exact .inl (by rw [segments, htext, parts])
  · exact .inr (by simp [segments, htext, parts, splitSlashes_append_slash, splitSlashes])

theorem filterMap_parts (p : Path) :
    p.parts.filterMap component? = p.segments.filterMap component? := by
  obtain hsegments | hsegments := p.segments_eq_parts <;> simp [hsegments, component?]

theorem filterMap_dropWhile {dropped : String → Bool}
    (hdropped : ∀ s, dropped s → component? s = none) (segments : List String) :
    (segments.dropWhile dropped).filterMap component? = segments.filterMap component? := by
  induction segments with
  | nil => rfl
  | cons s segments ih =>
    by_cases hs : dropped s
    · rw [List.dropWhile_cons_of_pos hs, ih, List.filterMap_cons_none (hdropped s hs)]
    · rw [List.dropWhile_cons_of_neg hs]

theorem parts_ne_nil (p : Path) : p.parts ≠ [] := by
  simpa [parts] using splitSlashes_ne_nil p.stem

theorem notMem_of_mem_parts {part : String} (h : part ∈ p.parts) : '/' ∉ part.toList := by
  obtain heq | heq := p.segments_eq_parts
  · exact notMem_of_mem_segments (heq ▸ h)
  · exact notMem_of_mem_segments (heq ▸ List.mem_append_left _ h)

theorem infix_of_mem_parts {part : String} (h : part ∈ p.parts) :
    part.toList <:+: p.text.toList := by
  obtain ⟨s, hs, rfl⟩ := List.mem_map.1 h
  rw [String.toList_ofList]
  exact (infix_of_mem_splitSlashes hs).trans p.stem_prefix.isInfix

theorem segments_join (hd : d.text ≠ "") (inner : String) :
    (d.join inner).segments = d.parts ++ segments ⟨inner⟩ := by
  rw [segments, toList_text_join hd, splitSlashes_append_slash, List.map_append, parts, segments]

theorem text_join_ne (hd : d.text ≠ "") (name : String) : (d.join name).text ≠ "" := by
  unfold join
  split <;> simp [hd]

theorem isAbsolute_join (hd : d.text ≠ "") (name : String) :
    (d.join name).isAbsolute = d.isAbsolute := by
  obtain ⟨c, cs, hcs⟩ := List.exists_cons_of_ne_nil (mt String.toList_eq_nil_iff.1 hd)
  unfold join isAbsolute
  split <;> simp [hcs]

theorem isAbsolute_of_head? (h : p.segments.head? ≠ some "") : p.isAbsolute = false :=
  eq_false_of_ne_true fun habsolute => h (head?_segments_of_isAbsolute habsolute)

theorem isAbsolute_join_of_head? {inner : String} (h : (segments ⟨inner⟩).head? ≠ some "") :
    (d.join inner).isAbsolute = d.isAbsolute := by
  by_cases hd : d.text = ""
  · have hjoin : d.join inner = ⟨inner⟩ := by simp [join, hd]
    rw [hjoin, isAbsolute_of_head? h, isAbsolute, hd]
    rfl
  · exact isAbsolute_join hd inner

theorem components_join (hd : d.text ≠ "") (hname : '/' ∉ name.toList) :
    (d.join name).components = d.components ++ (component? name).toList := by
  have hhead : (d.join name).segments.head? = d.segments.head? := by
    obtain ⟨part, rest, hparts⟩ := List.exists_cons_of_ne_nil d.parts_ne_nil
    rw [segments_join hd, hparts]
    obtain hsegments | hsegments := d.segments_eq_parts <;> rw [hsegments, hparts] <;> rfl
  have hinner : (d.join name).segments.filterMap component? =
      d.segments.filterMap component? ++ (component? name).toList := by
    have hlast : [name].filterMap component? = (component? name).toList := by
      cases h : component? name <;> simp [h]
    rw [segments_join hd, segments_of_notMem hname, List.filterMap_append, hlast, filterMap_parts]
  rw [components, components, isAbsolute_join hd, hhead, hinner, List.append_assoc]

/-! ## From components back to segments -/

theorem text_of_component? {segment : String} {c : Component} (h : component? segment = some c) :
    c.text = segment := by
  unfold component? at h
  split at h
  · cases h
  · split at h <;> cases h <;> simp_all [Component.text]

theorem component?_ne {segment : String} {c : Component} (h : component? segment = some c) :
    c ≠ .root ∧ c ≠ .current := by
  unfold component? at h
  split at h
  · cases h
  · split at h <;> cases h <;> simp

theorem getLast?_components {front : List String} {last : String} {c : Component}
    (h : p.segments = front ++ [last]) (hlast : component? last = some c) :
    p.components.getLast? = some c := by
  simp [components, h, hlast, ← List.append_assoc]

theorem map_text_filterMap_component? (segments : List String) :
    (segments.filterMap component?).map Component.text =
      segments.filter fun s => (component? s).isSome := by
  induction segments with
  | nil => rfl
  | cons s segments ih =>
    cases hs : component? s with
    | none => simp [hs, ih]
    | some c => simp [hs, ih, text_of_component? hs]

theorem filter_segments (p : Path) :
    p.segments.filter (fun s => (component? s).isSome) =
      (p.components.filter fun c => c ≠ .root ∧ c ≠ .current).map Component.text := by
  have hkept : (p.segments.filterMap component?).filter (fun c => c ≠ .root ∧ c ≠ .current) =
      p.segments.filterMap component? := by
    refine List.filter_eq_self.2 fun c hc => ?_
    obtain ⟨s, -, hs⟩ := List.mem_filterMap.1 hc
    exact decide_eq_true (component?_ne hs)
  rw [← map_text_filterMap_component?, components, List.filter_append, hkept]
  split
  · rfl
  · split <;> rfl

theorem filter_segments_eq_of_same (h : p.components = q.components) :
    p.segments.filter (fun s => (component? s).isSome) =
      q.segments.filter fun s => (component? s).isSome := by
  rw [filter_segments, filter_segments, h]

theorem isAbsolute_iff : p.isAbsolute ↔ .root ∈ p.components := by
  have hnone : .root ∉ p.segments.filterMap component? := by
    intro hroot
    obtain ⟨s, -, hs⟩ := List.mem_filterMap.1 hroot
    exact (component?_ne hs).1 rfl
  by_cases habsolute : p.isAbsolute
  · simp [components, habsolute]
  · simp only [components, habsolute, Bool.false_eq_true, if_false, List.mem_append, hnone]
    split <;> simp

theorem isAbsolute_eq_of_same (h : p.components = q.components) :
    p.isAbsolute = q.isAbsolute := by
  rw [Bool.eq_iff_iff, isAbsolute_iff, isAbsolute_iff, h]

theorem components_of_notMem (hname : '/' ∉ name.toList) :
    components ⟨name⟩ = if name = "." then [.current] else (component? name).toList := by
  have hfilter : [name].filterMap component? = (component? name).toList := by
    cases h : component? name <;> simp [h]
  rw [components, isAbsolute_of_notMem hname, segments_of_notMem hname, hfilter]
  by_cases hdot : name = "."
  · rw [hdot]
    decide
  · simp [hdot]

/-! ## Without a dot at the start -/

/-- The components, but for a dot at the start. -/
def bare (p : Path) : List Component :=
  p.components.filter (· ≠ .current)

theorem bare_of_notMem_current (h : .current ∉ p.components) : p.bare = p.components :=
  List.filter_eq_self.2 fun _ hc => decide_eq_true (ne_of_mem_of_not_mem hc h)

theorem bare_eq (p : Path) :
    p.bare = (if p.isAbsolute then [.root] else []) ++ p.segments.filterMap component? := by
  have hkept : (p.segments.filterMap component?).filter (· ≠ .current) =
      p.segments.filterMap component? := by
    refine List.filter_eq_self.2 fun c hc => ?_
    obtain ⟨s, -, hs⟩ := List.mem_filterMap.1 hc
    exact decide_eq_true (component?_ne hs).2
  rw [bare, components, List.filter_append, hkept]
  split
  · rfl
  · split <;> rfl

theorem bare_join (hd : d.text ≠ "") (hname : '/' ∉ name.toList) :
    (d.join name).bare = d.bare ++ (component? name).toList := by
  have hkept : (component? name).toList.filter (· ≠ .current) = (component? name).toList := by
    cases h : component? name with
    | none => rfl
    | some c => simp [(component?_ne h).2]
  rw [bare, components_join hd hname, List.filter_append, hkept, bare]

theorem bare_of_notMem (hname : '/' ∉ name.toList) : bare ⟨name⟩ = (component? name).toList := by
  rw [bare_eq, isAbsolute_of_notMem hname, segments_of_notMem hname]
  cases h : component? name <;> simp [h]

/-! ## The directory of a file -/

theorem segments_intercalate {segments : List String} (hne : segments ≠ [])
    (h : ∀ s ∈ segments, '/' ∉ s.toList) :
    Path.segments ⟨"/".intercalate segments⟩ = segments := by
  induction segments with
  | nil => exact absurd rfl hne
  | cons s segments ih =>
    obtain ⟨hs, h⟩ := List.forall_mem_cons.1 h
    cases segments with
    | nil => simp [segments_of_notMem hs]
    | cons t segments =>
      have htext : ("/".intercalate (s :: t :: segments)).toList =
          s.toList ++ '/' :: ("/".intercalate (t :: segments)).toList := by
        rw [String.intercalate_cons_cons]
        simp
      have hrest : (splitSlashes ("/".intercalate (t :: segments)).toList).map String.ofList =
          t :: segments := ih (List.cons_ne_nil _ _) h
      rw [Path.segments, htext, splitSlashes_append_slash, splitSlashes_of_notMem hs,
        List.map_append, hrest]
      simp

theorem isAbsolute_iff_segments :
    p.isAbsolute ↔ p.segments.head? = some "" ∧ p.segments.dropLast ≠ [] := by
  cases hcs : p.text.toList with
  | nil => simp [isAbsolute, segments, hcs, splitSlashes]
  | cons c cs =>
    obtain ⟨s, rest, hs⟩ := List.exists_cons_of_ne_nil (splitSlashes_ne_nil cs)
    by_cases hc : c = '/' <;> simp [isAbsolute, segments, hcs, splitSlashes, hs, hc]

/-- What is kept of the segments of a path in that of its directory, but for the first and last. -/
def kept (rest : List String) : List String :=
  rest.rdropWhile fun s => s = "" || s = "."

theorem filterMap_kept (rest : List String) :
    (kept rest).filterMap component? = rest.filterMap component? := by
  have hdropped : ∀ s : String, (s = "" || s = ".") → component? s = none :=
    fun s hs => if_pos hs
  rw [kept, List.rdropWhile, List.filterMap_reverse, filterMap_dropWhile hdropped,
    List.filterMap_reverse, List.reverse_reverse]

theorem segments_parent {first : String} {rest : List String}
    (h : p.segments.dropLast = first :: rest) :
    p.parent.segments = if first = "" ∧ kept rest = [] then ["", ""] else first :: kept rest := by
  have hparent : p.parent = if first = "" && (kept rest).isEmpty then ⟨"/"⟩
      else ⟨"/".intercalate (first :: kept rest)⟩ := by
    rw [parent, h]
    rfl
  by_cases hroot : first = "" ∧ kept rest = []
  · rw [hparent, if_pos (by simpa using hroot), if_pos hroot]
    decide
  · rw [hparent, if_neg (by simpa using hroot), if_neg hroot]
    refine segments_intercalate (List.cons_ne_nil _ _) fun s hs => ?_
    have hmem : s ∈ first :: rest := by
      obtain rfl | hs := List.mem_cons.1 hs
      · exact List.mem_cons_self
      · exact List.mem_cons_of_mem _ ((List.rdropWhile_prefix _ _).subset hs)
    rw [← h] at hmem
    exact notMem_of_mem_segments (List.dropLast_subset _ hmem)

theorem segments_parent_of_nil (h : p.segments.dropLast = []) : p.parent.segments = [""] := by
  rw [parent, h]
  decide

theorem mem_segments_parent {s : String} (h : s ∈ p.parent.segments) :
    s = "" ∨ s ∈ p.segments := by
  cases hdropLast : p.segments.dropLast with
  | nil =>
    rw [segments_parent_of_nil hdropLast] at h
    exact .inl (List.mem_singleton.1 h)
  | cons first rest =>
    rw [segments_parent hdropLast] at h
    split at h
    · simpa using Or.inl h
    · refine .inr (List.dropLast_subset _ ?_)
      rw [hdropLast]
      obtain rfl | h := List.mem_cons.1 h
      · exact List.mem_cons_self
      · exact List.mem_cons_of_mem _ ((List.rdropWhile_prefix _ _).subset h)

theorem isAbsolute_parent (p : Path) : p.parent.isAbsolute = p.isAbsolute := by
  rw [Bool.eq_iff_iff, isAbsolute_iff_segments, isAbsolute_iff_segments]
  cases hdropLast : p.segments.dropLast with
  | nil => simp [segments_parent_of_nil hdropLast]
  | cons first rest =>
    have hhead : p.segments.head? = some first := by
      obtain ⟨front, last, hsegments⟩ := p.exists_segments
      rw [hsegments, List.dropLast_concat] at hdropLast
      rw [hsegments, hdropLast]
      rfl
    rw [segments_parent hdropLast, hhead]
    split
    · rename_i hroot
      simp [hroot.1]
    · rename_i hroot
      cases hkept : kept rest with
      | nil => simpa [hkept] using hroot
      | cons s rest => simp

theorem bare_parent (p : Path) : p.parent.bare =
    (if p.isAbsolute then [.root] else []) ++ p.segments.dropLast.filterMap component? := by
  rw [bare_eq, isAbsolute_parent]
  congr 1
  cases hdropLast : p.segments.dropLast with
  | nil => simp [segments_parent_of_nil hdropLast, component?]
  | cons first rest =>
    rw [segments_parent hdropLast]
    split
    · rename_i hroot
      have hrest := filterMap_kept rest
      rw [hroot.2] at hrest
      simp [hroot.1, ← hrest, component?]
    · rw [List.filterMap_cons, List.filterMap_cons, filterMap_kept]

end LookML.Path
