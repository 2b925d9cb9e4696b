import LookML.Proofs.Definition.Fates
import LookML.Proofs.Document.Completeness
import LookML.Proofs.Project.Degradation
import LookML.Proofs.Project.References
import LookML.Proofs.Violation.Order
/-!
# Bare words as names

A view can be declared under any bare word that does not begin with a plus sign. Where the word is
used as a name it is read as a value, and there `yes`, `no` and numeric literals are no texts. Such
a word names nothing, and nothing is reported. Every other word means the same where it is declared
and where it is used.
-/

namespace LookML

/-- The word is read as a text: it is no flag and no number. -/
def SpellsText (w : String) : Prop :=
  w ≠ "yes" ∧ w ≠ "no" ∧ Number.ofWord? w.toList = none

instance (w : String) : Decidable (SpellsText w) :=
  inferInstanceAs (Decidable (_ ∧ _ ∧ _))

namespace Value

variable {w : String}

theorem ofWord_of_spellsText (h : SpellsText w) : ofWord w = .text w := by
  obtain ⟨hyes, hno, hnumber⟩ := h
  simp [ofWord, hyes, hno, hnumber]

theorem ofWord_of_not_spellsText (h : ¬ SpellsText w) :
    (∃ b, ofWord w = .flag b) ∨ ∃ n, ofWord w = .number n := by
  unfold ofWord
  split
  · exact .inl ⟨true, rfl⟩
  · rename_i hyes
    split
    · exact .inl ⟨false, rfl⟩
    · rename_i hno
      split
      · exact .inr ⟨_, rfl⟩
      · rename_i hnumber
        exact absurd ⟨hyes, hno, hnumber⟩ h

theorem text?_ofWord (w : String) : (ofWord w).text? = if SpellsText w then some w else none := by
  split
  · rename_i h
    rw [ofWord_of_spellsText h]
    rfl
  · rename_i h
    rcases ofWord_of_not_spellsText h with ⟨b, hb⟩ | ⟨n, hn⟩
    · rw [hb]
      rfl
    · rw [hn]
      rfl

theorem texts_ofWord (w : String) : (ofWord w).texts = if SpellsText w then [w] else [] := by
  split
  · rename_i h
    rw [ofWord_of_spellsText h]
    rfl
  · rename_i h
    rcases ofWord_of_not_spellsText h with ⟨b, hb⟩ | ⟨n, hn⟩
    · rw [hb]
      rfl
    · rw [hn]
      rfl

end Value

namespace Grammar

/-- Whether a word or quoted string is read as a text. -/
def Scalar.isText : Scalar → Bool
  | .word w _ => SpellsText w
  | .quoted _ _ => true

/-- The element, if it is a single word or quoted string. -/
def Element.scalar? : Element → Option Scalar
  | .scalar s => some s
  | _ => none

/-- The words and quoted strings among the elements that follow the first one. -/
def Others.scalars : Others → List Scalar
  | .nil | .comma _ => []
  | .cons _ next others => next.scalar?.toList ++ others.scalars

/-- The words and quoted strings among the elements of a list. -/
def Bracketed.scalars : Bracketed → List Scalar
  | .empty .. => []
  | .mk _ first others _ => first.scalar?.toList ++ others.scalars

/-- The item gives the key a word or quoted string, or those of a list. -/
inductive Item.Gives (key : String) : Item → List Scalar → Prop
  | scalar {word colon : Span} {s : Scalar} : Gives key (.scalar key word colon s) [s]
  | list {word colon : Span} {l : Bracketed} : Gives key (.list key word colon l) l.scalars

theorem Scalar.texts_value (s : Scalar) :
    s.value.texts = ([s].filter Scalar.isText).map Scalar.text := by
  cases s with
  | word w span =>
    by_cases h : SpellsText w <;> simp [value, isText, text, Value.texts_ofWord, h]
  | quoted w span => rfl

theorem Scalar.text?_value (s : Scalar) :
    s.value.text?.toList = ([s].filter Scalar.isText).map Scalar.text := by
  cases s with
  | word w span =>
    by_cases h : SpellsText w <;> simp [value, isText, text, Value.text?_ofWord, h]
  | quoted w span => rfl

theorem Bracketed.text?_value (l : Bracketed) : l.value.text? = none := by
  cases l <;> rfl

theorem Element.text?_value (e : Element) :
    e.value.text?.toList = (e.scalar?.toList.filter Scalar.isText).map Scalar.text := by
  cases e with
  | list l =>
    rw [Element.value, l.text?_value]
    rfl
  | listPair key colon l => rfl
  | pair key colon s => rfl
  | scalar s => exact s.text?_value

theorem filterMap_eq_toList_append {α β : Type} (f : α → Option β) (x : α) (xs : List α) :
    (x :: xs).filterMap f = (f x).toList ++ xs.filterMap f := by
  cases h : f x <;> simp [h]

theorem Others.texts_values (others : Others) :
    others.values.filterMap Value.text? =
      (others.scalars.filter Scalar.isText).map Scalar.text := by
  cases others with
  | nil => rfl
  | comma _ => rfl
  | cons _ next others =>
    rw [values, filterMap_eq_toList_append, next.text?_value, others.texts_values, scalars,
      List.filter_append, List.map_append]

theorem Bracketed.texts_value (l : Bracketed) :
    l.value.texts = (l.scalars.filter Scalar.isText).map Scalar.text := by
  cases l with
  | empty bracket close => rfl
  | mk bracket first others close =>
    rw [value, Value.texts, filterMap_eq_toList_append, first.text?_value, others.texts_values,
      scalars, List.filter_append, List.map_append]

end Grammar

namespace Property

open Grammar (Scalar Item)

/-- The property is read from an item that gives the key these words and quoted strings. -/
def Gives (p : Property) (key : String) (scalars : List Scalar) : Prop :=
  ∃ path item, Item.Gives key item scalars ∧ item.read path = .property p

def IsWord (p : Property) (key w : String) : Prop :=
  ∃ path word colon span, Item.read path (.scalar key word colon (.word w span)) = .property p

variable {p : Property} {key w : String}

theorem Gives.texts_value {scalars : List Scalar} (h : p.Gives key scalars) :
    p.value.texts = (scalars.filter Scalar.isText).map Scalar.text := by
  obtain ⟨path, item, hgives, hread⟩ := h
  cases hgives with
  | scalar =>
    cases hread
    exact Scalar.texts_value _
  | list =>
    cases hread
    exact Grammar.Bracketed.texts_value _

theorem IsWord.value_eq (h : p.IsWord key w) : p.value = .ofWord w := by
  obtain ⟨path, word, colon, span, hread⟩ := h
  cases hread
  rfl

theorem IsWord.gives (h : p.IsWord key w) : ∃ span, p.Gives key [.word w span] := by
  obtain ⟨path, word, colon, span, hread⟩ := h
  exact ⟨span, path, _, .scalar, hread⟩

theorem IsWord.of_text {path : String} {start stop : Position} (hspells : SpellsText w)
    (hname : p.name = key) (hvalue : p.value.text? = some w)
    (hlocation : p.location = .between path start stop) : p.IsWord key w := by
  obtain ⟨_, value, _⟩ := p
  cases value with
  | text _ =>
    cases hname
    cases hlocation
    cases hvalue
    refine ⟨path, ⟨start, start⟩, ⟨start, start⟩, ⟨start, stop⟩, ?_⟩
    rw [Grammar.Item.read, Grammar.Scalar.value, Value.ofWord_of_spellsText hspells]
    rfl
  | _ => cases hvalue

end Property

/-! ## Where a word is used -/

section Uses

variable {p : Property} {w : String}

theorem Entity.text?_of_isWord {e : Entity} {key : String} (hp : e.property? key = some p)
    (h : p.IsWord key w) : e.text? key = if SpellsText w then some w else none := by
  rw [text?, get?, hp, Option.map_some, Option.bind_some, h.value_eq, Value.text?_ofWord]

theorem Entity.declaredBases_eq {e : Entity} {scalars : List Grammar.Scalar}
    (hp : e.property? "extends" = some p) (h : p.Gives "extends" scalars) :
    e.declaredBases = (scalars.filter Grammar.Scalar.isText).map Grammar.Scalar.text := by
  rw [declaredBases, get?, hp]
  exact h.texts_value

theorem Entity.baseView_of_from {e : Entity} (hp : e.property? "from" = some p)
    (h : p.IsWord "from" w) :
    e.baseView = if SpellsText w then w else (e.text? "view_name").getD e.name := by
  rw [baseView, text?_of_isWord hp h]
  split <;> rfl

theorem Entity.baseView_of_viewName {e : Entity} (hfrom : e.text? "from" = none)
    (hp : e.property? "view_name" = some p) (h : p.IsWord "view_name" w) :
    e.baseView = if SpellsText w then w else e.name := by
  rw [baseView, hfrom, text?_of_isWord hp h]
  split <;> rfl

theorem Member.targetView_of_from {j : Member} (hp : j.block.property? "from" = some p)
    (h : p.IsWord "from" w) : j.targetView = if SpellsText w then w else j.name := by
  rw [targetView, Block.text?, Block.get?, hp, Option.map_some, Option.bind_some, h.value_eq,
    Value.text?_ofWord]
  split <;> rfl

end Uses

namespace Grammar

def documents (files : List (String × List Item)) : List Document :=
  files.map fun (path, items) => document path items

def DeclaresView (files : List (String × List Item)) (w : String) : Prop :=
  ∃ file ∈ files, ∃ word colon span body, .named "view" word colon (.word w span) body ∈ file.2

variable {files : List (String × List Item)} {w : String}

/-- The name of a view is the word itself, whatever it spells. -/
theorem DeclaresView.exists_block (h : DeclaresView files w) (hw : w ≠ "")
    (hplus : w.toList.head? ≠ some '+') :
    ∃ b ∈ (documents files).flatMap Document.blocks, b.IsDefinitionOf ⟨.view, ⟨w, hw⟩⟩ := by
  obtain ⟨⟨path, items⟩, hfile, word, colon, span, ⟨brace, inner, close⟩, hitem⟩ := h
  have hblock : (Body.mk brace inner close).block path "view" (some w) word.start ∈
      (document path items).blocks :=
    List.mem_filterMap.2 ⟨_, List.mem_map_of_mem hitem, rfl⟩
  exact ⟨_, List.mem_flatMap.2 ⟨_, List.mem_map_of_mem hfile, hblock⟩, rfl, rfl, hplus⟩

end Grammar

namespace Project

variable {documents : List Document} {e v : Entity} {property : Property}
  {scalars : List Grammar.Scalar} {w : String}

theorem bases_eq_filterMap [Extends.ComponentFinder] (he : e ∈ (build documents).1.entities) :
    e.bases = e.declaredBases.filterMap Identifier.ofText? := by
  obtain ⟨i, hi⟩ := List.mem_iff_getElem?.1 he
  obtain ⟨d, hd, rfl⟩ := exists_definition hi
  exact bases_eq_declaredBases hd

theorem exists_entity_of_isDefinitionOf [Extends.ComponentFinder] {key : EntityKey}
    (h : ∃ b ∈ documents.flatMap Document.blocks, b.IsDefinitionOf key) :
    ∃ e, (build documents).1.entity? key.kind key.name.text = some e := by
  obtain ⟨d, hd, rfl⟩ := List.mem_map.1 ((Definition.mem_keys_collect_iff _ key).2 h)
  exact ⟨_, (entity?_eq_some_iff documents _ _ _).2 ⟨toEntity_mem_entities hd, rfl, rfl⟩⟩

theorem mem_bases_iff [Extends.ComponentFinder] (he : e ∈ (build documents).1.entities)
    (hp : e.property? "extends" = some property) (h : property.Gives "extends" scalars)
    {base : EntityName} : base ∈ e.bases ↔ ∃ s ∈ scalars, s.text = base.text ∧ s.isText := by
  rw [bases_eq_filterMap he, e.declaredBases_eq hp h]
  simp only [List.mem_filterMap, List.mem_map, List.mem_filter, Identifier.ofText?_eq_some_iff]
  constructor
  · rintro ⟨_, ⟨s, ⟨hs, htext⟩, rfl⟩, hname⟩
    exact ⟨s, hs, hname.symm, htext⟩
  · rintro ⟨s, hs, hname, htext⟩
    exact ⟨_, ⟨s, ⟨hs, htext⟩, rfl⟩, hname.symm⟩

theorem links_iff_spellsText [Extends.ComponentFinder] (hw : w ≠ "")
    (he : e ∈ (build documents).1.entities) (hkind : e.kind = .view)
    (hv : (build documents).1.view? w = some v) (hp : e.property? "extends" = some property)
    {span : Grammar.Span} (h : property.Gives "extends" [.word w span]) :
    (build documents).1.Links e v ↔ SpellsText w := by
  have hbase : ∀ base : EntityName, base ∈ e.bases ↔ base.text = w ∧ SpellsText w := by
    intro base
    rw [mem_bases_iff he hp h]
    simp only [List.mem_singleton, exists_eq_left, Grammar.Scalar.text, Grammar.Scalar.isText,
      decide_eq_true_eq]
    rw [eq_comm]
  rw [Links, linkedBases, List.mem_filterMap, hkind]
  constructor
  · rintro ⟨base, hmem, _⟩
    exact ((hbase base).1 hmem).2
  · intro hspells
    exact ⟨⟨w, hw⟩, (hbase _).2 ⟨rfl, hspells⟩, hv⟩

theorem base_mem_of_extendsNotFound [Extends.ComponentFinder] {base : EntityName}
    {location : Location} (he : e ∈ (build documents).1.entities)
    (h : .extendsNotFound e.key base location ∈ (build documents).2) : base ∈ e.bases := by
  obtain ⟨i, hi⟩ := List.mem_iff_getElem?.1 he
  obtain ⟨d, hd, rfl⟩ := exists_definition hi
  rcases (mem_errors_iff rfl).1 h with hmissing | hcycle | hdeep
  · obtain ⟨d', hd', base', hbase, location', heq⟩ := exists_of_mem_missingErrors hmissing
    obtain ⟨hkey, rfl, _⟩ := ResolutionError.extendsNotFound.inj heq
    -- Keys are distinct, so the complaint is about this definition.
    have hsame : d = d' :=
      List.inj_on_of_nodup_map (nodup_keys_definitions documents) (List.mem_of_getElem? hd) hd' hkey
    exact hsame ▸ (List.mem_filter.1 hbase).1
  · exact nomatch Definition.isCycle_of_mem_cycleErrors hcycle
  · obtain ⟨_, _, _, heq⟩ := exists_of_mem_tooDeepErrors hdeep
    cases heq

theorem extendsNotFound_of_base_mem [Extends.ComponentFinder] {base : EntityName}
    (he : e ∈ (build documents).1.entities) (hbase : base ∈ e.bases)
    (hnone : (build documents).1.entity? e.kind base.text = none) :
    ∃ location, .extendsNotFound e.key base location ∈ (build documents).2 := by
  obtain ⟨i, hi⟩ := List.mem_iff_getElem?.1 he
  obtain ⟨d, hd, rfl⟩ := exists_definition hi
  have hmissing : base ∈ Definition.missingBases (definitions documents) d := by
    refine List.mem_filter.2 ⟨hbase, ?_⟩
    rw [Option.isNone_iff_eq_none, ← Option.not_isSome_iff_eq_none, isSome_indexOf?_iff]
    exact Option.not_isSome_iff_eq_none.2 hnone
  have herror : ∃ location, .extendsNotFound d.key base location ∈ missingErrors documents :=
    ⟨_, List.mem_flatMap.2
      ⟨d, List.mem_of_getElem? hd, List.mem_map.2 ⟨base, hmissing, rfl⟩⟩⟩
  obtain ⟨location, herror⟩ := herror
  exact ⟨location, (mem_errors_iff rfl).2 (Or.inl herror)⟩

theorem accounted_iff_mem_bases [Extends.ComponentFinder] (he : e ∈ (build documents).1.entities)
    {base : EntityName} :
    ((∃ b, (build documents).1.Links e b ∧ b.name = base.text) ∨
      ∃ location, .extendsNotFound e.key base location ∈ (build documents).2) ↔
        base ∈ e.bases := by
  constructor
  · rintro (⟨b, hlinks, hname⟩ | ⟨location, herror⟩)
    · obtain ⟨base', hmem, hfound⟩ := List.mem_filterMap.1 hlinks
      obtain ⟨_, _, hname'⟩ := (entity?_eq_some_iff documents _ _ _).1 hfound
      exact Identifier.text_injective (hname'.symm.trans hname) ▸ hmem
    · exact base_mem_of_extendsNotFound he herror
  · intro hmem
    cases hfound : (build documents).1.entity? e.kind base.text with
    | some b =>
      left
      obtain ⟨_, _, hname⟩ := (entity?_eq_some_iff documents _ _ _).1 hfound
      exact ⟨b, List.mem_filterMap.2 ⟨base, hmem, hfound⟩, hname⟩
    | none =>
      right
      exact extendsNotFound_of_base_mem he hmem hfound

/-! ## Main statement -/

/-- A base is linked or reported if and only if it is written as a text, and a bare word that is
declared as a view's name names the view in `extends`, `from` and `view_name` if and only if it is
read as one. -/
theorem bareWord_resolves_iff [Extends.ComponentFinder] (files : List (String × List Grammar.Item))
    {w : String} (hw : w ≠ "") (hplus : w.toList.head? ≠ some '+') :
    (∀ e ∈ (build (Grammar.documents files)).1.entities, ∀ property scalars,
      e.property? "extends" = some property → property.Gives "extends" scalars →
      (((∃ b, (build (Grammar.documents files)).1.Links e b ∧ b.name = w) ∨
        ∃ location, .extendsNotFound e.key ⟨w, hw⟩ location ∈
          (build (Grammar.documents files)).2) ↔ ∃ s ∈ scalars, s.text = w ∧ s.isText)) ∧
    (Grammar.DeclaresView files w →
      ∃ v, (build (Grammar.documents files)).1.view? w = some v ∧
      (∀ e ∈ (build (Grammar.documents files)).1.views, ∀ property span,
        e.property? "extends" = some property → property.Gives "extends" [.word w span] →
        ((build (Grammar.documents files)).1.Links e v ↔ SpellsText w)) ∧
      (∀ e ∈ (build (Grammar.documents files)).1.explores, ∀ property,
        (e.property? "from" = some property → property.IsWord "from" w →
          e.baseView = if SpellsText w then w else (e.text? "view_name").getD e.name) ∧
        (e.text? "from" = none → e.property? "view_name" = some property →
          property.IsWord "view_name" w →
          e.baseView = if SpellsText w then w else e.name) ∧
        ∀ j ∈ e.joins, j.block.property? "from" = some property → property.IsWord "from" w →
          j.targetView = if SpellsText w then w else j.name)) := by
  constructor
  · intro e he property scalars hp h
    have haccounted : _ ↔ (⟨w, hw⟩ : EntityName) ∈ e.bases := accounted_iff_mem_bases he
    exact haccounted.trans (mem_bases_iff he hp h)
  · intro hdeclares
    obtain ⟨v, hv⟩ := exists_entity_of_isDefinitionOf (hdeclares.exists_block hw hplus)
    refine ⟨v, hv, ?_, ?_⟩
    · intro e he property span hp h
      obtain ⟨hmem, hkind⟩ := List.mem_filter.1 he
      exact links_iff_spellsText hw hmem (of_decide_eq_true hkind) hv hp h
    · intro e _ property
      exact ⟨e.baseView_of_from, e.baseView_of_viewName, fun j _ => j.targetView_of_from⟩

/-- The items of a file `view: name {} view: b { extends: name }`, where the name has four
letters. -/
def heirOf (name : String) : List Grammar.Item :=
  let span (line start stop : Nat) : Grammar.Span := ⟨⟨line, start⟩, ⟨line, stop⟩⟩
  [.named "view" (span 1 1 5) (span 1 5 6) (.word name (span 1 7 11))
      (.mk (span 1 12 13) [] (span 1 13 14)),
    .named "view" (span 2 1 5) (span 2 5 6) (.word "b" (span 2 7 8)) (.mk (span 2 9 10)
      [.scalar "extends" (span 3 3 10) (span 3 10 11) (.word name (span 3 12 16))] (span 4 1 2))]

/-- A view may have a name that begins like a number, and be extended. -/
theorem bareWord_resolves_iff_24q1 :
    ∃ v, (build (Grammar.documents [("a.view.lkml", heirOf "24q1")])).1.view? "24q1" = some v ∧
      ∃ e ∈ (build (Grammar.documents [("a.view.lkml", heirOf "24q1")])).1.views,
        e.name = "b" ∧ (build (Grammar.documents [("a.view.lkml", heirOf "24q1")])).1.Links e v := by
  obtain ⟨v, hv, hlinks, _⟩ := (bareWord_resolves_iff [("a.view.lkml", heirOf "24q1")]
    (by decide : "24q1" ≠ "") (by decide)).2
      ⟨_, List.mem_singleton.2 rfl, _, _, _, _, List.mem_cons_self⟩
  have hheir : ((build (Grammar.documents [("a.view.lkml", heirOf "24q1")])).1.views[1]?.any fun e =>
      e.name = "b" && (e.property? "extends").any fun p =>
        p.name = "extends" && p.value.text? = some "24q1" &&
          p.location = .between "a.view.lkml" ⟨3, 3⟩ ⟨3, 16⟩) = true := by
    decide +kernel
  obtain ⟨e, he, hheir⟩ := (Option.any_eq_true _ _).1 hheir
  rw [Bool.and_eq_true, decide_eq_true_eq] at hheir
  obtain ⟨hname, hextends⟩ := hheir
  obtain ⟨p, hp, hextends⟩ := (Option.any_eq_true _ _).1 hextends
  simp only [Bool.and_eq_true, decide_eq_true_eq] at hextends
  have hword : p.IsWord "extends" "24q1" :=
    .of_text (by decide) hextends.1.1 hextends.1.2 hextends.2
  have hmem := List.mem_of_getElem? he
  obtain ⟨span, hgives⟩ := hword.gives
  exact ⟨v, hv, e, hmem, hname, (hlinks e hmem p span hp hgives).2 (by decide)⟩

def heirOfYear : String :=
  "view: 2024 \x7b\x7d\nview: b \x7b\n  extends: 2024\n\x7d\n"

/-- A number is the name of no base: the base is neither linked nor reported. -/
theorem base_dropped_heirOfYear :
    ∃ d, Document.parse "a.view.lkml" heirOfYear = .ok d ∧ (build [d]).2 = [] ∧
      ((build [d]).1.view? "2024").isSome ∧
      ∃ e, (build [d]).1.view? "b" = some e ∧ (build [d]).1.linkedBases e = [] := by
  have hscan : Token.scan "a.view.lkml" heirOfYear =
      .ok (Grammar.itemTokens (heirOf "2024") ++ [⟨.endOfInput, ⟨5, 1⟩, ⟨5, 1⟩⟩]) := by
    decide +kernel
  have hparse : Document.parse "a.view.lkml" heirOfYear =
      .ok (Grammar.document "a.view.lkml" (heirOf "2024")) :=
    Document.parse_of_scan hscan rfl (Nat.le_of_ble_eq_true rfl)
  have herrors : (build [Grammar.document "a.view.lkml" (heirOf "2024")]).2 = [] := by
    decide +kernel
  have hyear : ((build [Grammar.document "a.view.lkml" (heirOf "2024")]).1.view? "2024").isSome := by
    decide +kernel
  have hheir : ((build [Grammar.document "a.view.lkml" (heirOf "2024")]).1.view? "b").any
      (fun e => ((build [Grammar.document "a.view.lkml" (heirOf "2024")]).1.linkedBases e).isEmpty) =
        true := by
    decide +kernel
  obtain ⟨e, he, hbases⟩ := (Option.any_eq_true _ _).1 hheir
  exact ⟨_, hparse, herrors, hyear, e, he, List.isEmpty_iff.1 hbases⟩

end Project

end LookML
