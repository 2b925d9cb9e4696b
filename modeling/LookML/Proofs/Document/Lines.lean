import LookML.Proofs.Document.Errors
import LookML.Proofs.Document.Spans
import LookML.Proofs.Token.Breaks
/-!
# What stands on one line

A word has no line feed in it, but a quoted string may run over several lines, and it may be a name.
If the quoted strings of a file keep to one line, so do all names in the document, and so do the
values that name something. Only the raw text of an expression may then be longer.
-/

namespace LookML

open Token (isExpressionKey scanFrom)

/-! ## Texts -/

/-- The text has no line feed. -/
def OneLine (s : String) : Prop :=
  '\n' ∉ s.toList

instance : DecidablePred OneLine :=
  fun s => inferInstanceAs (Decidable ('\n' ∉ s.toList))

section Texts

variable {s t : String}

@[simp] theorem oneLine_append : OneLine (s ++ t) ↔ OneLine s ∧ OneLine t := by
  simp [OneLine, not_or]

@[simp] theorem oneLine_toString : OneLine (toString s) ↔ OneLine s :=
  .rfl

theorem oneLine_ofList {cs : List Char} : OneLine (String.ofList cs) ↔ '\n' ∉ cs := by
  rw [OneLine, String.toList_ofList]

theorem not_mem_toDigits (n : Nat) : '\n' ∉ Nat.toDigits 10 n := by
  intro hmem
  have hdigit := Nat.isDigit_of_mem_toDigits (by decide) (by decide) hmem
  exact absurd hdigit (by decide)

@[simp] theorem oneLine_repr (n : Nat) : OneLine n.repr := by
  rw [Nat.repr_eq_ofList_toDigits, oneLine_ofList]
  exact not_mem_toDigits n

theorem OneLine.of_subset (h : OneLine s) (hsub : t.toList ⊆ s.toList) : OneLine t :=
  fun hmem => h (hsub hmem)

theorem oneLine_intercalate {separator : String} {parts : List String}
    (hseparator : OneLine separator) (hparts : ∀ part ∈ parts, OneLine part) :
    OneLine (separator.intercalate parts) := by
  induction parts with
  | nil => exact List.not_mem_nil
  | cons first others ih =>
    rw [List.forall_mem_cons] at hparts
    cases others with
    | nil => simpa using hparts.1
    | cons second others =>
      rw [String.intercalate_cons_cons, oneLine_append, oneLine_append]
      exact ⟨⟨hparts.1, hseparator⟩, ih hparts.2⟩

end Texts

/-! ## Tokens -/

namespace Token

def Keyed (kinds : List TokenKind) : Prop :=
  ∀ key text, [.word key, .colon, .expression text] <:+: kinds → isExpressionKey key = true

section Keyed

variable {kind : TokenKind} {kinds : List TokenKind}

theorem Keyed.cons (h : Keyed kinds)
    (hkind : ∀ key, kind = .word key → ∀ text, [.colon, .expression text] <+: kinds →
      isExpressionKey key = true) : Keyed (kind :: kinds) := by
  intro key text hpart
  rcases List.infix_cons_iff.1 hpart with hprefix | hpart
  · obtain ⟨hfirst, hrest⟩ := List.cons_prefix_cons.1 hprefix
    exact hkind key hfirst.symm text hrest
  · exact h key text hpart

def KeyedAfter (before : Option String) (kinds : List TokenKind) : Prop :=
  Keyed (before.toList.map .word ++ kinds)

theorem Keyed.after (h : Keyed kinds) {before : Option String}
    (hbefore : ∀ text, [.colon, .expression text] <+: kinds → ∀ key ∈ before,
      isExpressionKey key = true) : KeyedAfter before kinds := by
  cases before with
  | none => exact h
  | some w =>
    refine Keyed.cons h ?_
    rintro key ⟨⟩ text hprefix
    exact hbefore text hprefix w rfl

theorem Keyed.after_of_ne (h : Keyed (kind :: kinds)) (hkind : kind ≠ .colon)
    (before : Option String) : KeyedAfter before (kind :: kinds) :=
  h.after fun _ hprefix => absurd (List.cons_prefix_cons.1 hprefix).1.symm hkind

end Keyed

theorem keyed_of_scanFrom {path : String} {before : Option String} {p : Position}
    {rest : List Char} {ts : List Token} (h : scanFrom path before p rest = .ok ts) :
    (∀ text, (ts.map Token.kind).head? ≠ some (.expression text)) ∧
      KeyedAfter before (ts.map Token.kind) := by
  fun_induction scanFrom path before p rest generalizing ts with
  | case1 before p =>
    cases h
    have hkeyed : Keyed [.endOfInput] := fun key text hpart => by
      simpa using hpart.length_le
    exact ⟨(by simp), hkeyed.after_of_ne (by simp) before⟩
  | case2 _ p c cs hblank ih => exact ih h
  | case3 _ p cs _ ih => exact ih h
  | case4 before p cs hkey =>
    rename_i ih
    obtain ⟨ts, hts, rfl⟩ := map_eq_ok.1 h
    obtain ⟨hhead, hkeyed⟩ := ih hts
    have hcolon : Keyed (.colon :: ts.map Token.kind) := Keyed.cons hkeyed (by simp)
    refine ⟨(by simp), hcolon.after fun text hprefix => ?_⟩
    -- no expression follows a colon that does not ask for one
    obtain ⟨after, hafter⟩ := (List.cons_prefix_cons.1 hprefix).2
    exact absurd (by rw [← hafter]; rfl) (hhead text)
  | case5 => cases h
  | case6 before p cs key hkey body rest hsplit =>
    rename_i ih
    obtain ⟨ts, hts, rfl⟩ := map_eq_ok.1 h
    obtain ⟨rfl, hexpressionKey⟩ := Option.filter_eq_some_iff.1 hkey
    have hexpression : ∀ text, Keyed (.expression text :: ts.map Token.kind) :=
      fun _ => Keyed.cons (ih hts).2 (by simp)
    have hkeyed : ∀ text, Keyed (.colon :: .expression text :: ts.map Token.kind) :=
      fun text => (hexpression text).cons (by simp)
    refine ⟨(by simp), (hkeyed _).after fun _ _ key' hkey' => ?_⟩
    cases hkey'
    exact hexpressionKey
  | case7 => cases h
  | case8 before p cs body written rest hsplit =>
    rename_i ih
    obtain ⟨ts, hts, rfl⟩ := map_eq_ok.1 h
    have hkeyed : ∀ text, Keyed (.quoted text :: ts.map Token.kind) :=
      fun _ => Keyed.cons (ih hts).2 (by simp)
    exact ⟨(by simp), (hkeyed _).after_of_ne (by simp) before⟩
  | case9 before p c cs _ _ _ _ kind hkind ih =>
    obtain ⟨ts, hts, rfl⟩ := map_eq_ok.1 h
    obtain ⟨hsign, hcolon⟩ := punctuation?_eq_some_iff.1 hkind
    have hkeyed : Keyed (kind :: ts.map Token.kind) :=
      Keyed.cons (ih hts).2 fun key hkey => by cases hkey; cases hsign
    refine ⟨fun text htext => ?_, hkeyed.after_of_ne hcolon before⟩
    cases htext
    cases hsign
  | case10 before =>
    rename_i ih
    obtain ⟨ts, hts, rfl⟩ := map_eq_ok.1 h
    exact ⟨(by simp), Keyed.after_of_ne (ih hts).2 (by simp) before⟩

theorem oneLine_of_isWord {w : List Char} (h : IsWord w) : OneLine (String.ofList w) := by
  rw [oneLine_ofList]
  intro hmem
  have hblank := (h.clear '\n' hmem).1
  exact absurd hblank (by decide)

theorem Spells.oneLine {slice : List Char} {kind : TokenKind} (h : Spells slice kind)
    (hquoted : ∀ s, kind = .quoted s → OneLine s) : ∀ s ∈ kind.text?, OneLine s := by
  intro s hs
  cases h with
  | word hword =>
    cases hs
    exact oneLine_of_isWord hword
  | quoted => exact hquoted s (congrArg TokenKind.quoted (Option.some.inj hs))
  | expression => cases hs
  | sign hsign =>
    cases kind <;> cases hs
    · cases hsign
    · cases hsign

theorem Tiles.oneLine {text : List Char} {i : Nat} {ts : List Token} (h : Tiles text i ts)
    (hquoted : ∀ t ∈ ts, ∀ s, t.kind = .quoted s → OneLine s) :
    ∀ t ∈ ts, ∀ s ∈ t.kind.text?, OneLine s := by
  induction h with
  | token _ _ _ _ hspells _ ih =>
    rw [List.forall_mem_cons] at hquoted ⊢
    exact ⟨hspells.oneLine hquoted.1, ih hquoted.2⟩
  | endOfInput => exact List.forall_mem_singleton.2 nofun

theorem oneLine_of_scanFrom_error {path : String} {before : Option String} {p : Position}
    {rest : List Char} {e : SyntaxError} (h : scanFrom path before p rest = .error e)
    (hbefore : ∀ key ∈ before, OneLine key) : ∀ text ∈ e.cause.texts, OneLine text := by
  fun_induction scanFrom path before p rest with
  | case1 => cases h
  | case2 _ _ _ _ _ ih | case3 _ _ _ _ ih => exact ih h hbefore
  | case4 | case6 | case8 | case9 =>
    rename_i ih
    exact ih (map_eq_error.1 h) (by simp)
  | case5 before p cs key hkey =>
    cases h
    obtain ⟨rfl, _⟩ := Option.filter_eq_some_iff.1 hkey
    exact List.forall_mem_singleton.2 (hbefore key rfl)
  | case7 =>
    cases h
    exact List.forall_mem_nil _
  | case10 before p c cs hblank hcomment hcolon hquote hnone =>
    rename_i ih
    have hword : IsWord (c :: cs.takeWhile (!isDelimiter ·)) :=
      isWord_takeWhile hcomment
        (isDelimiter_of_punctuation? (by simpa using hblank) hcolon hquote hnone)
    refine ih (map_eq_error.1 h) fun key hkey => ?_
    cases hkey
    exact oneLine_of_isWord hword

end Token

/-- The words and quoted strings among the tokens keep to one line. -/
structure Plain (ts : List Token) : Prop where
  texts : ∀ t ∈ ts, ∀ text ∈ t.kind.text?, OneLine text
  keyed : Token.Keyed (ts.map Token.kind)

theorem Plain.mono {ts ts' : List Token} (h : Plain ts) (hpart : ts' <:+: ts) : Plain ts' where
  texts := fun t ht => h.texts t (hpart.subset ht)
  keyed := fun key text hkey => h.keyed key text (hkey.trans (hpart.map Token.kind))

theorem plain_of_scan {path text : String} {ts : List Token} (h : Token.scan path text = .ok ts)
    (hquoted : ∀ t ∈ ts, ∀ s, t.kind = .quoted s → OneLine s) : Plain ts where
  texts := (Token.tiles_of_scan h).oneLine hquoted
  keyed := (Token.keyed_of_scanFrom h).2

/-! ## Documents -/

/-- The property has a name on one line, and so is what it is set to, unless it is an expression. -/
structure Property.InLine (p : Property) : Prop where
  name : OneLine p.name
  texts : ¬ isExpressionKey p.name → ∀ text ∈ p.value.texts, OneLine text

/-- The names that stand in the block keep to one line. -/
structure Block.InLine (b : Block) : Prop where
  keyword : OneLine b.kind.keyword
  name : ∀ name ∈ b.name, OneLine name
  properties : ∀ p ∈ b.properties, p.InLine

/-- The names that stand in the document keep to one line. -/
structure Document.InLine (d : Document) : Prop where
  properties : ∀ p ∈ d.properties, p.InLine
  blocks : ∀ b ∈ d.nestedBlocks, b.InLine

namespace Grammar

variable {path : String}

theorem Scalar.exists_of_mem_texts {s : Scalar} {text : String} (h : text ∈ s.value.texts) :
    s.token.kind.text? = some text := by
  cases s with
  | quoted w span => exact congrArg some (List.mem_singleton.1 h).symm
  | word w span =>
    rw [value, Value.ofWord] at h
    split at h
    · cases h
    · split at h
      · cases h
      · split at h
        · cases h
        · exact congrArg some (List.mem_singleton.1 h).symm

theorem Element.exists_of_text? {e : Element} {text : String} (h : e.value.text? = some text) :
    ∃ t ∈ e.tokens, t.kind.text? = some text := by
  cases e with
  | list l => cases l <;> cases h
  | listPair | pair => cases h
  | scalar s =>
    refine ⟨s.token, List.mem_cons_self, Scalar.exists_of_mem_texts ?_⟩
    rw [value] at h
    cases hvalue : s.value <;> rw [hvalue] at h <;> cases h
    exact List.mem_cons_self

theorem Others.exists_of_mem : (others : Others) → ∀ v ∈ others.values, ∀ text ∈ v.text?,
    ∃ t ∈ others.tokens, t.kind.text? = some text
  | .nil, v, hv, text, htext => by cases hv
  | .comma c, v, hv, text, htext => by cases hv
  | .cons c next others, v, hv, text, htext => by
    rcases List.mem_cons.1 hv with rfl | hv
    · obtain ⟨t, ht, hkind⟩ := Element.exists_of_text? htext
      exact ⟨t, List.mem_cons_of_mem _ (List.mem_append_left _ ht), hkind⟩
    · obtain ⟨t, ht, hkind⟩ := others.exists_of_mem v hv text htext
      exact ⟨t, List.mem_cons_of_mem _ (List.mem_append_right _ ht), hkind⟩

theorem Bracketed.exists_of_mem_texts {l : Bracketed} {text : String} (h : text ∈ l.value.texts) :
    ∃ t ∈ l.tokens, t.kind.text? = some text := by
  cases l with
  | empty bracket close => cases h
  | mk bracket first others close =>
    obtain ⟨v, hv, htext⟩ := List.mem_filterMap.1 h
    rcases List.mem_cons.1 hv with rfl | hv
    · obtain ⟨t, ht, hkind⟩ := Element.exists_of_text? htext
      exact ⟨t, List.mem_cons_of_mem _ (List.mem_append_left _ ht), hkind⟩
    · obtain ⟨t, ht, hkind⟩ := others.exists_of_mem v hv text htext
      refine ⟨t, List.mem_cons_of_mem _ (List.mem_append_right _ ?_), hkind⟩
      exact List.mem_append_left _ ht

theorem Item.inLine_property {i : Item} {p : Property} (h : i.read path = .property p)
    (hplain : Plain i.tokens) : p.InLine := by
  cases i with
  | anonymous key word colon body =>
    cases h
    exact ⟨hplain.texts _ List.mem_cons_self key rfl, fun _ => nofun⟩
  | list key word colon l =>
    cases h
    refine ⟨hplain.texts _ List.mem_cons_self key rfl, fun _ text htext => ?_⟩
    obtain ⟨t, ht, hkind⟩ := Bracketed.exists_of_mem_texts htext
    exact hplain.texts t (List.mem_cons_of_mem _ (List.mem_cons_of_mem _ ht)) text hkind
  | expression key word colon text span =>
    cases h
    refine ⟨hplain.texts _ List.mem_cons_self key rfl, fun hkey => absurd ?_ hkey⟩
    exact hplain.keyed key text List.infix_rfl
  | named key word colon name body => cases h
  | scalar key word colon s =>
    cases h
    refine ⟨hplain.texts _ List.mem_cons_self key rfl, fun _ text htext => ?_⟩
    exact hplain.texts s.token (by simp [tokens]) text (Scalar.exists_of_mem_texts htext)

theorem Body.inLine_block {body : Body} {key : String} {name : Option String} {start : Position}
    (hkey : OneLine key) (hname : ∀ n ∈ name, OneLine n) (hplain : Plain body.tokens) :
    (body.block path key name start).InLine := by
  obtain ⟨brace, items, close⟩ := body
  refine ⟨?_, hname, fun p hp => ?_⟩
  · rw [Body.block, Block.kind, BlockKind.keyword_ofKeyword]
    exact hkey
  · obtain ⟨i, hi, hread⟩ := mem_readAll.1 (Document.Item.mem_properties.1 hp)
    refine i.inLine_property hread (hplain.mono ((infix_itemTokens hi).trans ?_))
    exact ⟨[brace.token .leftBrace], [close.token .rightBrace], rfl⟩

theorem Item.inLine_block {i : Item} {b : Block} (h : i.block? path = some b)
    (hplain : Plain i.tokens) : b.InLine := by
  cases i with
  | anonymous key word colon body =>
    cases h
    have hbody : Plain body.tokens := hplain.mono (List.suffix_append [_, _] _).isInfix
    exact body.inLine_block (hplain.texts _ List.mem_cons_self key rfl) nofun hbody
  | named key word colon name body =>
    cases h
    have hbody : Plain body.tokens := hplain.mono (List.suffix_append [_, _, _] _).isInfix
    refine body.inLine_block (hplain.texts _ List.mem_cons_self key rfl) ?_ hbody
    rintro _ ⟨⟩
    exact hplain.texts name.token (by simp [tokens]) name.text (by cases name <;> rfl)
  | list | expression | scalar => cases h

end Grammar

/-! ## Syntax errors -/

theorem Expectation.oneLine_describe {expected : Expectation}
    (h : ∀ text ∈ expected.text?, OneLine text) : OneLine expected.describe := by
  unfold describe
  cases expected with
  | valueOf key | blockEnd key line =>
    have hkey : OneLine key := h key rfl
    simp +decide [hkey]
  | listEnd line => simp +decide
  | colon | propertyName | value | listSeparator => decide

theorem TokenKind.oneLine_describe {kind : TokenKind} (h : ∀ text ∈ kind.text?, OneLine text) :
    OneLine kind.describe := by
  unfold describe
  cases kind with
  | word text | quoted text =>
    have htext : OneLine text := h text rfl
    simp +decide [htext]
  | expression text => exact (by decide : OneLine "expression")
  | _ => decide

theorem SyntaxError.Cause.oneLine_describe {cause : Cause}
    (h : ∀ text ∈ cause.texts, OneLine text) : OneLine cause.describe := by
  unfold describe
  cases cause with
  | unexpected expected found =>
    simp only [texts, List.forall_mem_append, Option.mem_toList] at h
    have hexpected := Expectation.oneLine_describe h.1
    have hfound := TokenKind.oneLine_describe h.2
    simp +decide [hexpected, hfound]
  | unterminatedExpression key =>
    have hkey : OneLine key := h key List.mem_cons_self
    simp +decide [hkey]
  | unterminatedString | nestingTooDeep => decide

/-! ## Main statements -/

namespace Document

variable {path text : String}

theorem inLine_of_parse {d : Document} (h : parse path text = .ok d) {ts : List Token}
    (hscan : Token.scan path text = .ok ts)
    (hquoted : ∀ t ∈ ts, ∀ s, t.kind = .quoted s → OneLine s) : d.InLine := by
  have hplain := plain_of_scan hscan hquoted
  obtain ⟨is, rest, hitems, rfl⟩ := exists_items_of_parse h
  cases hscan.symm.trans hitems
  have hread : Plain (Grammar.itemTokens is) := hplain.mono (List.prefix_append _ _).isInfix
  refine ⟨fun p hp => ?_, fun b hb => ?_⟩
  · obtain ⟨i, hi, hproperty⟩ := List.mem_map.1 (Item.mem_properties.1 hp)
    exact i.inLine_property hproperty (hread.mono (Grammar.infix_itemTokens hi))
  · obtain ⟨i, hi, hwritten⟩ := (nested_of_scan hitems).written b hb
    exact i.inLine_block hwritten.block_eq (hplain.mono hi)

theorem oneLine_of_parse_error {e : SyntaxError} (h : parse path text = .error e)
    (hquoted : ∀ ts, Token.scan path text = .ok ts → ∀ t ∈ ts, ∀ s, t.kind = .quoted s →
      OneLine s) : ∀ text ∈ e.cause.texts, OneLine text := by
  rcases bind_eq_error.1 h with h | ⟨ts, hscan, h⟩
  · exact Token.oneLine_of_scanFrom_error h nofun
  · obtain ⟨body, eof, rfl, heof, _⟩ := (Token.tiles_of_scan hscan).exists_endOfInput
    have hends : Ends (body ++ [eof]) := ⟨eof, by simp, heof⟩
    intro text htext
    obtain ⟨t, ht, hkind⟩ := (stands_of_ofTokens hends h).texts text htext
    exact (plain_of_scan hscan (hquoted _ hscan)).texts t ht text hkind

end Document

end LookML
