import LookML.Proofs.Document.Grammar
import LookML.Proofs.Except
/-!
# What the parsers read

For each parser the ways in which it succeeds, in terms of the parsers that it calls. The bound on
the tokens that a parser leaves matters to its termination only and is left out here.
-/

namespace LookML.Document

open Grammar (Span Scalar NotNext notNext_iff)

section Forget

variable {α β : Type} {P : List Token → Prop}

def forget (r : Except SyntaxError (α × { rest : List Token // P rest })) :
    Except SyntaxError (α × List Token) :=
  r.map fun (a, rest) => (a, rest.val)

def forgetAfter (r : Except SyntaxError (α × Position × { rest : List Token // P rest })) :
    Except SyntaxError (α × Position × List Token) :=
  r.map fun (a, stop, rest) => (a, stop, rest.val)

theorem forget_eq_ok {r : Except SyntaxError (α × { rest : List Token // P rest })} {a : α}
    {rest : List Token} : forget r = .ok (a, rest) ↔ ∃ h, r = .ok (a, ⟨rest, h⟩) := by
  constructor
  · intro h
    cases r with
    | error e => cases h
    | ok r =>
      cases h
      exact ⟨_, rfl⟩
  · rintro ⟨h, rfl⟩
    rfl

theorem forgetAfter_eq_ok
    {r : Except SyntaxError (α × Position × { rest : List Token // P rest })} {a : α}
    {stop : Position} {rest : List Token} :
    forgetAfter r = .ok (a, stop, rest) ↔ ∃ h, r = .ok (a, stop, ⟨rest, h⟩) := by
  constructor
  · intro h
    cases r with
    | error e => cases h
    | ok r =>
      cases h
      exact ⟨_, rfl⟩
  · rintro ⟨h, rfl⟩
    rfl

end Forget

section Readers

variable (path : String) (depth : Nat)

def readItems (ts : List Token) : Except SyntaxError (List Item × List Token) :=
  forget (items path depth ts)

def readItem (key : String) (start : Position) (ts : List Token) :
    Except SyntaxError (Item × List Token) :=
  forget (item path depth key start ts)

def readBlock (keyword : String) (name : Option String) (start brace : Position)
    (ts : List Token) : Except SyntaxError (Block × List Token) :=
  forget (block path depth keyword name start brace ts)

def readList (bracket : Position) (ts : List Token) :
    Except SyntaxError (Value × Position × List Token) :=
  forgetAfter (list path depth bracket ts)

def readElements (line : Nat) (ts : List Token) :
    Except SyntaxError (List Value × Position × List Token) :=
  forgetAfter (elements path depth line ts)

def readElement (ts : List Token) : Except SyntaxError (Value × Position × List Token) :=
  forgetAfter (element path depth ts)

def readScalar (ts : List Token) : Except SyntaxError (Value × Position × List Token) :=
  forgetAfter (scalar path ts)

end Readers

variable {path : String} {depth : Nat}

theorem readScalar_eq_ok {ts rest : List Token} {v : Value} {stop : Position} :
    readScalar path ts = .ok (v, stop, rest) ↔
      ∃ s : Scalar, ts = s.token :: rest ∧ s.value = v ∧ s.span.stop = stop := by
  constructor
  · intro h
    unfold readScalar scalar at h
    split at h
    · rename_i w p _ after
      cases h
      exact ⟨.word w ⟨p, _⟩, rfl, rfl, rfl⟩
    · rename_i s p _ after
      cases h
      exact ⟨.quoted s ⟨p, _⟩, rfl, rfl, rfl⟩
    · cases h
  · rintro ⟨s, rfl, rfl, rfl⟩
    cases s with
    | word text span => rfl
    | quoted text span => rfl

/-! ## Lists -/

theorem readList_eq_ok {bracket : Position} {ts rest : List Token} {v : Value} {stop : Position} :
    readList path depth bracket ts = .ok (v, stop, rest) ↔
      depth + 1 ≤ maxNesting ∧ ∃ vs,
        readElements path (depth + 1) bracket.line ts = .ok (vs, stop, rest) ∧ v = .list vs := by
  rw [readList, forgetAfter_eq_ok, list]
  by_cases hdepth : maxNesting ≤ depth
  · rw [if_pos hdepth]
    constructor
    · rintro ⟨_, h⟩
      cases h
    · rintro ⟨h, _⟩
      exact absurd h (Nat.not_le.2 (Nat.lt_succ_of_le hdepth))
  · rw [if_neg hdepth]
    constructor
    · rintro ⟨_, h⟩
      obtain ⟨⟨vs, stop', after⟩, helements, h⟩ := bind_eq_ok.1 h
      cases h
      exact ⟨Nat.lt_of_not_le hdepth, vs, forgetAfter_eq_ok.2 ⟨_, helements⟩, rfl⟩
    · rintro ⟨_, vs, helements, rfl⟩
      obtain ⟨_, helements⟩ := forgetAfter_eq_ok.1 helements
      exact ⟨_, bind_eq_ok.2 ⟨_, helements, rfl⟩⟩

/-- The ways in which an element is read. -/
inductive ElementCase (path : String) (depth : Nat) :
    List Token → Value → Position → List Token → Prop
  | list (bracket : Span) {body rest : List Token} {v : Value} {stop : Position}
      (h : readList path depth bracket.start body = .ok (v, stop, rest)) :
      ElementCase path depth (bracket.token .leftBracket :: body) v stop rest
  | listPair (key : Scalar) (colon bracket : Span) {body rest : List Token} {v : Value}
      {stop : Position} (h : readList path depth bracket.start body = .ok (v, stop, rest)) :
      ElementCase path depth
        (key.token :: colon.token .colon :: bracket.token .leftBracket :: body)
        (.pair key.text v) stop rest
  | pair (key : Scalar) (colon : Span) (s : Scalar) {rest : List Token} :
      ElementCase path depth (key.token :: colon.token .colon :: s.token :: rest)
        (.pair key.text s.value) s.span.stop rest
  | scalar (s : Scalar) {rest : List Token} (h : NotNext .colon rest) :
      ElementCase path depth (s.token :: rest) s.value s.span.stop rest

theorem readElement_of_list {bracket : Span} {body rest : List Token} {v : Value}
    {stop : Position} (h : readList path depth bracket.start body = .ok (v, stop, rest)) :
    readElement path depth (bracket.token .leftBracket :: body) = .ok (v, stop, rest) := by
  obtain ⟨_, hlist⟩ := forgetAfter_eq_ok.1 h
  rw [readElement, forgetAfter_eq_ok, Span.token, element]
  exact ⟨_, bind_eq_ok.2 ⟨_, hlist, rfl⟩⟩

theorem readElement_of_listPair {key : Scalar} {colon bracket : Span} {body rest : List Token}
    {v : Value} {stop : Position}
    (h : readList path depth bracket.start body = .ok (v, stop, rest)) :
    readElement path depth
        (key.token :: colon.token .colon :: bracket.token .leftBracket :: body) =
      .ok (.pair key.text v, stop, rest) := by
  obtain ⟨_, hlist⟩ := forgetAfter_eq_ok.1 h
  rw [readElement, forgetAfter_eq_ok]
  rcases key with ⟨text, span⟩ | ⟨text, span⟩
  all_goals
    simp only [Scalar.token, Span.token]
    rw [element]
    exact ⟨_, bind_eq_ok.2 ⟨_, hlist, rfl⟩⟩

theorem readElement_of_pair {key s : Scalar} {colon : Span} {rest : List Token} :
    readElement path depth (key.token :: colon.token .colon :: s.token :: rest) =
      .ok (.pair key.text s.value, s.span.stop, rest) := by
  rcases key with ⟨text, span⟩ | ⟨text, span⟩ <;> rcases s with ⟨value, last⟩ | ⟨value, last⟩
  all_goals
    simp only [readElement, Scalar.token, Span.token]
    rw [element]
    · rfl
    · intro _ _ _ heq
      cases heq

theorem readElement_of_scalar {s : Scalar} {rest : List Token} (h : NotNext .colon rest) :
    readElement path depth (s.token :: rest) = .ok (s.value, s.span.stop, rest) := by
  rcases s with ⟨text, span⟩ | ⟨text, span⟩
  all_goals
    simp only [readElement, Scalar.token, Span.token]
    rw [element]
    · rfl
    · intro _ _ _ heq
      cases heq
    all_goals
      intro _ _ _ p q ts heq
      exact notNext_iff.1 h p q ts (List.cons.inj heq).2

theorem readElement_eq_ok {ts rest : List Token} {v : Value} {stop : Position} :
    readElement path depth ts = .ok (v, stop, rest) ↔ ElementCase path depth ts v stop rest := by
  constructor
  · rw [readElement, forgetAfter_eq_ok]
    rintro ⟨_, h⟩
    rw [element.eq_def] at h
    split at h
    · rename_i p q body _
      obtain ⟨⟨w, stop', after, shorter⟩, hlist, h⟩ := bind_eq_ok.1 h
      cases h
      exact .list ⟨p, q⟩ (forgetAfter_eq_ok.2 ⟨_, hlist⟩)
    -- The next two cases differ in the token of the key only.
    · rename_i key p q p' q' ts _
      split at h
      · rename_i p'' q'' body _
        obtain ⟨⟨w, stop', after, shorter⟩, hlist, h⟩ := bind_eq_ok.1 h
        cases h
        exact .listPair (.word key ⟨p, q⟩) ⟨p', q'⟩ ⟨p'', q''⟩ (forgetAfter_eq_ok.2 ⟨_, hlist⟩)
      · obtain ⟨⟨w, stop', after, shorter⟩, hscalar, h⟩ := bind_eq_ok.1 h
        cases h
        obtain ⟨s, rfl, rfl, rfl⟩ := readScalar_eq_ok.1 (forgetAfter_eq_ok.2 ⟨_, hscalar⟩)
        exact .pair (.word key ⟨p, q⟩) ⟨p', q'⟩ s
    · rename_i key p q p' q' ts _
      split at h
      · rename_i p'' q'' body _
        obtain ⟨⟨w, stop', after, shorter⟩, hlist, h⟩ := bind_eq_ok.1 h
        cases h
        exact .listPair (.quoted key ⟨p, q⟩) ⟨p', q'⟩ ⟨p'', q''⟩ (forgetAfter_eq_ok.2 ⟨_, hlist⟩)
      · obtain ⟨⟨w, stop', after, shorter⟩, hscalar, h⟩ := bind_eq_ok.1 h
        cases h
        obtain ⟨s, rfl, rfl, rfl⟩ := readScalar_eq_ok.1 (forgetAfter_eq_ok.2 ⟨_, hscalar⟩)
        exact .pair (.quoted key ⟨p, q⟩) ⟨p', q'⟩ s
    · rename_i hword hquoted
      obtain ⟨s, rfl, rfl, rfl⟩ := readScalar_eq_ok.1 (forgetAfter_eq_ok.2 ⟨_, h⟩)
      apply ElementCase.scalar
      apply notNext_iff.2
      rintro p q ts rfl
      cases s with
      | word text span => exact hword _ _ _ _ _ _ rfl
      | quoted text span => exact hquoted _ _ _ _ _ _ rfl
  · intro h
    cases h with
    | list bracket h => exact readElement_of_list h
    | listPair key colon bracket h => exact readElement_of_listPair h
    | pair key colon s => exact readElement_of_pair
    | scalar s h => exact readElement_of_scalar h

/-- The ways in which the elements of a list are read. -/
inductive ElementsCase (path : String) (depth line : Nat) :
    List Token → List Value → Position → List Token → Prop
  | close (close : Span) {rest : List Token} :
      ElementsCase path depth line (close.token .rightBracket :: rest) [] close.stop rest
  | last (close : Span) {ts rest : List Token} {v : Value} {stop : Position}
      (h : readElement path depth ts = .ok (v, stop, close.token .rightBracket :: rest)) :
      ElementsCase path depth line ts [v] close.stop rest
  | cons (comma : Span) {ts after rest : List Token} {v : Value} {vs : List Value}
      {stop last : Position}
      (h : readElement path depth ts = .ok (v, stop, comma.token .comma :: after))
      (hrest : readElements path depth line after = .ok (vs, last, rest)) :
      ElementsCase path depth line ts (v :: vs) last rest

theorem ElementCase.notNext {ts rest : List Token} {v : Value} {stop : Position}
    (h : ElementCase path depth ts v stop rest) :
    NotNext .rightBracket ts ∧ NotNext .endOfInput ts := by
  have hscalar : ∀ (s : Scalar) (after : List Token),
      NotNext .rightBracket (s.token :: after) ∧ NotNext .endOfInput (s.token :: after) := by
    intro s after
    rcases s.kind_token with hkind | hkind <;> simp [NotNext, hkind]
  cases h with
  | list bracket h => simp [NotNext, Span.token]
  | listPair key colon bracket h => exact hscalar key _
  | pair key colon s => exact hscalar key _
  | scalar s h => exact hscalar s _

theorem readElements_eq_ok {line : Nat} {ts rest : List Token} {vs : List Value}
    {stop : Position} :
    readElements path depth line ts = .ok (vs, stop, rest) ↔
      ElementsCase path depth line ts vs stop rest := by
  rw [readElements, forgetAfter_eq_ok]
  constructor
  · rintro ⟨_, h⟩
    rw [elements.eq_def] at h
    split at h
    · rename_i p q after _
      cases h
      exact .close ⟨p, _⟩
    · cases h
    · obtain ⟨⟨v, stop', after, shorter⟩, helement, h⟩ := bind_eq_ok.1 h
      have hread := forgetAfter_eq_ok.2 ⟨_, helement⟩
      simp only at h
      split at h
      · rename_i p q after' _
        obtain ⟨⟨vs', last, rest', shorter'⟩, helements, h⟩ := bind_eq_ok.1 h
        cases h
        exact .cons ⟨p, q⟩ hread (forgetAfter_eq_ok.2 ⟨_, helements⟩)
      · cases h
        exact .last ⟨_, _⟩ hread
      · cases h
  · intro h
    cases h with
    | close close =>
      rw [Span.token, elements]
      exact ⟨_, rfl⟩
    | last close h =>
      obtain ⟨hbracket, hend⟩ := (readElement_eq_ok.1 h).notNext
      obtain ⟨shorter, helement⟩ := forgetAfter_eq_ok.1 h
      rw [elements.eq_def]
      split
      · exact absurd rfl (hbracket _ rfl)
      · exact absurd rfl (hend _ rfl)
      · exact ⟨Nat.lt_of_succ_lt shorter, bind_eq_ok.2 ⟨_, helement, rfl⟩⟩
    | cons comma h hrest =>
      obtain ⟨hbracket, hend⟩ := (readElement_eq_ok.1 h).notNext
      obtain ⟨shorter, helement⟩ := forgetAfter_eq_ok.1 h
      obtain ⟨shorter', helements⟩ := forgetAfter_eq_ok.1 hrest
      rw [elements.eq_def]
      split
      · exact absurd rfl (hbracket _ rfl)
      · exact absurd rfl (hend _ rfl)
      · have hlt : rest.length < ts.length :=
          Nat.lt_trans shorter' (Nat.lt_of_succ_lt shorter)
        exact ⟨hlt, bind_eq_ok.2 ⟨_, helement, bind_eq_ok.2 ⟨_, helements, rfl⟩⟩⟩

/-! ## Blocks -/

theorem readBlock_eq_ok {keyword : String} {name : Option String} {start brace : Position}
    {ts rest : List Token} {b : Block} :
    readBlock path depth keyword name start brace ts = .ok (b, rest) ↔
      depth + 1 ≤ maxNesting ∧ ∃ all close,
        readItems path (depth + 1) ts = .ok (all, Span.token close .rightBrace :: rest) ∧
          b = .mk (.ofKeyword keyword) name (all.filterMap Item.property?)
            (all.filterMap Item.block?) (.between path start close.stop) := by
  rw [readBlock, forget_eq_ok, block]
  by_cases hdepth : maxNesting ≤ depth
  · rw [if_pos hdepth]
    constructor
    · rintro ⟨_, h⟩
      cases h
    · rintro ⟨h, _⟩
      exact absurd h (Nat.not_le.2 (Nat.lt_succ_of_le hdepth))
  · rw [if_neg hdepth]
    constructor
    · rintro ⟨_, h⟩
      obtain ⟨⟨all, after, shorter⟩, hitems, h⟩ := bind_eq_ok.1 h
      simp only at h
      split at h
      · rename_i _ _ p stop after _
        cases h
        exact ⟨Nat.lt_of_not_le hdepth, all, ⟨p, stop⟩, forget_eq_ok.2 ⟨_, hitems⟩, rfl⟩
      · cases h
    · rintro ⟨_, all, close, hitems, rfl⟩
      obtain ⟨_, hitems⟩ := forget_eq_ok.1 hitems
      exact ⟨_, bind_eq_ok.2 ⟨_, hitems, rfl⟩⟩

/-- The ways in which the rest of an item is read after its key. -/
inductive ItemCase (path : String) (depth : Nat) (key : String) (start : Position) :
    List Token → Item → List Token → Prop
  | anonymous (colon brace : Span) {body rest : List Token} {b : Block}
      (h : readBlock path depth key none start brace.start body = .ok (b, rest)) :
      ItemCase path depth key start (colon.token .colon :: brace.token .leftBrace :: body)
        (.property (.mk key (.block b) b.location)) rest
  | list (colon bracket : Span) {body rest : List Token} {v : Value} {stop : Position}
      (h : readList path depth bracket.start body = .ok (v, stop, rest)) :
      ItemCase path depth key start (colon.token .colon :: bracket.token .leftBracket :: body)
        (.property (.mk key v (.between path start stop))) rest
  | expression (colon : Span) (text : String) (span : Span) {rest : List Token} :
      ItemCase path depth key start (colon.token .colon :: span.token (.expression text) :: rest)
        (.property (.mk key (.text text) (.between path start span.stop))) rest
  | named (colon : Span) (name : Scalar) (brace : Span) {body rest : List Token} {b : Block}
      (h : readBlock path depth key (some name.text) start brace.start body = .ok (b, rest)) :
      ItemCase path depth key start
        (colon.token .colon :: name.token :: brace.token .leftBrace :: body) (.block b) rest
  | scalar (colon : Span) (s : Scalar) {rest : List Token} (h : NotNext .leftBrace rest) :
      ItemCase path depth key start (colon.token .colon :: s.token :: rest)
        (.property (.mk key s.value (.between path start s.span.stop))) rest

theorem readItem_eq_ok {key : String} {start : Position} {ts rest : List Token} {i : Item} :
    readItem path depth key start ts = .ok (i, rest) ↔
      ItemCase path depth key start ts i rest := by
  rw [readItem, forget_eq_ok]
  constructor
  · rintro ⟨_, h⟩
    rw [item.eq_def] at h
    split at h
    · split at h
      · rename_i p q _ p' q' body _
        obtain ⟨⟨b, after, shorter⟩, hblock, h⟩ := bind_eq_ok.1 h
        cases h
        exact .anonymous ⟨p, q⟩ ⟨p', q'⟩ (forget_eq_ok.2 ⟨_, hblock⟩)
      · rename_i p q _ p' q' body _
        obtain ⟨⟨v, stop, after, shorter⟩, hlist, h⟩ := bind_eq_ok.1 h
        cases h
        exact .list ⟨p, q⟩ ⟨p', q'⟩ (forgetAfter_eq_ok.2 ⟨_, hlist⟩)
      · rename_i p q _ text p' q' _ _
        cases h
        exact .expression ⟨p, q⟩ text ⟨p', q'⟩
      · rename_i p q _ name p' q' p'' q'' body _
        obtain ⟨⟨b, after, shorter⟩, hblock, h⟩ := bind_eq_ok.1 h
        cases h
        exact .named ⟨p, q⟩ (.word name ⟨p', q'⟩) ⟨p'', q''⟩ (forget_eq_ok.2 ⟨_, hblock⟩)
      · rename_i p q _ name p' q' p'' q'' body _
        obtain ⟨⟨b, after, shorter⟩, hblock, h⟩ := bind_eq_ok.1 h
        cases h
        exact .named ⟨p, q⟩ (.quoted name ⟨p', q'⟩) ⟨p'', q''⟩ (forget_eq_ok.2 ⟨_, hblock⟩)
      · rename_i p q _ word p' q' after hbrace _
        cases h
        exact .scalar ⟨p, q⟩ (.word word ⟨p', q'⟩) (notNext_iff.2 hbrace)
      · rename_i p q _ text p' q' after hbrace _
        cases h
        exact .scalar ⟨p, q⟩ (.quoted text ⟨p', q'⟩) (notNext_iff.2 hbrace)
      · cases h
    · cases h
  · intro h
    cases h with
    | anonymous colon brace h =>
      obtain ⟨_, hblock⟩ := forget_eq_ok.1 h
      simp only [Span.token]
      rw [item]
      exact ⟨_, bind_eq_ok.2 ⟨_, hblock, rfl⟩⟩
    | list colon bracket h =>
      obtain ⟨_, hlist⟩ := forgetAfter_eq_ok.1 h
      simp only [Span.token]
      rw [item]
      exact ⟨_, bind_eq_ok.2 ⟨_, hlist, rfl⟩⟩
    | expression colon text span =>
      simp only [Span.token]
      rw [item]
      exact ⟨_, rfl⟩
    | named colon name brace h =>
      obtain ⟨_, hblock⟩ := forget_eq_ok.1 h
      rcases name with ⟨text, span⟩ | ⟨text, span⟩
      all_goals
        simp only [Scalar.token, Span.token]
        rw [item]
        exact ⟨_, bind_eq_ok.2 ⟨_, hblock, rfl⟩⟩
    | scalar colon s h =>
      rcases s with ⟨text, span⟩ | ⟨text, span⟩
      all_goals
        simp only [Scalar.token, Span.token]
        rw [item]
        · exact ⟨_, rfl⟩
        · exact notNext_iff.1 h

/-- The ways in which items are read. -/
inductive ItemsCase (path : String) (depth : Nat) :
    List Token → List Item → List Token → Prop
  | nil {ts : List Token} (h : ∀ key, NotNext (.word key) ts) : ItemsCase path depth ts [] ts
  | cons (key : String) (word : Span) {after between rest : List Token} {i : Item}
      {others : List Item} (h : readItem path depth key word.start after = .ok (i, between))
      (hrest : readItems path depth between = .ok (others, rest)) :
      ItemsCase path depth (word.token (.word key) :: after) (i :: others) rest

theorem readItems_eq_ok {ts rest : List Token} {all : List Item} :
    readItems path depth ts = .ok (all, rest) ↔ ItemsCase path depth ts all rest := by
  rw [readItems, forget_eq_ok]
  constructor
  · rintro ⟨_, h⟩
    rw [items.eq_def] at h
    split at h
    · rename_i key start stop after _
      obtain ⟨⟨i, between, shorter⟩, hitem, h⟩ := bind_eq_ok.1 h
      obtain ⟨⟨others, last, shorter'⟩, hitems, h⟩ := bind_eq_ok.1 h
      cases h
      exact .cons key ⟨start, stop⟩ (forget_eq_ok.2 ⟨_, hitem⟩) (forget_eq_ok.2 ⟨_, hitems⟩)
    · rename_i hword
      cases h
      exact .nil fun key => notNext_iff.2 (hword key)
  · intro h
    cases h with
    | nil h =>
      rw [items.eq_def]
      split
      · exact absurd rfl (h _ _ rfl)
      · exact ⟨Nat.le_refl _, rfl⟩
    | cons key word h hrest =>
      obtain ⟨_, hitem⟩ := forget_eq_ok.1 h
      obtain ⟨_, hitems⟩ := forget_eq_ok.1 hrest
      rw [Span.token, items]
      exact ⟨_, bind_eq_ok.2 ⟨_, hitem, bind_eq_ok.2 ⟨_, hitems, rfl⟩⟩⟩

theorem ofTokens_eq_ok {ts : List Token} {d : Document} :
    ofTokens path ts = .ok d ↔
      ∃ all rest, readItems path 0 ts = .ok (all, rest) ∧ (current rest).kind = .endOfInput ∧
        d = ⟨path, all.filterMap Item.property?, all.filterMap Item.block?⟩ := by
  unfold ofTokens
  constructor
  · intro h
    obtain ⟨⟨all, rest, shorter⟩, hitems, h⟩ := bind_eq_ok.1 h
    simp only at h
    split at h
    · rename_i hend
      cases h
      exact ⟨all, rest, forget_eq_ok.2 ⟨_, hitems⟩, hend, rfl⟩
    · cases h
  · rintro ⟨all, rest, hitems, hend, rfl⟩
    obtain ⟨_, hitems⟩ := forget_eq_ok.1 hitems
    exact bind_eq_ok.2 ⟨_, hitems, if_pos hend⟩

end LookML.Document
