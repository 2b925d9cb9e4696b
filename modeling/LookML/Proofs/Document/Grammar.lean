import LookML.Document.Parser
/-!
# The grammar of documents

Syntax trees with one node for each production and one leaf for each token. A tree spells the
tokens at its leaves and means what the parser makes of them:

```
document = item*
item     = word ':' (body | list | expression | scalar body | scalar)
body     = '{' item* '}'
list     = '[' (element (',' element)* ','?)? ']'
element  = list | scalar ':' (list | scalar) | scalar
scalar   = word | quoted
```
-/

namespace LookML.Grammar

/-- Where a token stands. -/
structure Span where
  start : Position
  stop : Position

def Span.token (s : Span) (kind : TokenKind) : Token :=
  ⟨kind, s.start, s.stop⟩

/-- A bare word or a quoted string. -/
inductive Scalar where
  | word (text : String) (span : Span)
  | quoted (text : String) (span : Span)

namespace Scalar

def text : Scalar → String
  | word text _ | quoted text _ => text

def span : Scalar → Span
  | word _ span | quoted _ span => span

def token : Scalar → Token
  | word text span => span.token (.word text)
  | quoted text span => span.token (.quoted text)

def value : Scalar → Value
  | word text _ => .ofWord text
  | quoted text _ => .text text

theorem kind_token (s : Scalar) :
    s.token.kind = .word s.text ∨ s.token.kind = .quoted s.text := by
  cases s with
  | word text span => exact .inl rfl
  | quoted text span => exact .inr rfl

end Scalar

mutual

/-- An item, which begins with the word `key`. -/
inductive Item where
  /-- `word ':' body` -/
  | anonymous (key : String) (word colon : Span) (body : Body)
  /-- `word ':' list` -/
  | list (key : String) (word colon : Span) (list : Bracketed)
  /-- `word ':' expression` -/
  | expression (key : String) (word colon : Span) (text : String) (span : Span)
  /-- `word ':' scalar body` -/
  | named (key : String) (word colon : Span) (name : Scalar) (body : Body)
  /-- `word ':' scalar` -/
  | scalar (key : String) (word colon : Span) (value : Scalar)

/-- The items of a block in their braces. -/
inductive Body where
  | mk (brace : Span) (items : List Item) (close : Span)

/-- A list in its brackets. -/
inductive Bracketed where
  | empty (bracket close : Span)
  | mk (bracket : Span) (first : Element) (others : Others) (close : Span)

/-- What follows the first element of a list: `(',' element)* ','?`. -/
inductive Others where
  | nil
  | comma (comma : Span)
  | cons (comma : Span) (next : Element) (others : Others)

/-- An element of a list. -/
inductive Element where
  /-- `list` -/
  | list (list : Bracketed)
  /-- `scalar ':' list` -/
  | listPair (key : Scalar) (colon : Span) (list : Bracketed)
  /-- `scalar ':' scalar` -/
  | pair (key : Scalar) (colon : Span) (value : Scalar)
  /-- `scalar` -/
  | scalar (value : Scalar)

end

/-! ## What a tree spells -/

mutual

def Item.tokens : Item → List Token
  | .anonymous key word colon body => word.token (.word key) :: colon.token .colon :: body.tokens
  | .list key word colon l => word.token (.word key) :: colon.token .colon :: l.tokens
  | .expression key word colon text span =>
    [word.token (.word key), colon.token .colon, span.token (.expression text)]
  | .named key word colon name body =>
    word.token (.word key) :: colon.token .colon :: name.token :: body.tokens
  | .scalar key word colon value => [word.token (.word key), colon.token .colon, value.token]

def Body.tokens : Body → List Token
  | .mk brace items close =>
    brace.token .leftBrace :: (itemTokens items ++ [close.token .rightBrace])

def itemTokens : List Item → List Token
  | [] => []
  | i :: is => i.tokens ++ itemTokens is

def Bracketed.tokens : Bracketed → List Token
  | .empty bracket close => [bracket.token .leftBracket, close.token .rightBracket]
  | .mk bracket first others close =>
    bracket.token .leftBracket :: (first.tokens ++ (others.tokens ++ [close.token .rightBracket]))

def Others.tokens : Others → List Token
  | .nil => []
  | .comma c => [c.token .comma]
  | .cons c next others => c.token .comma :: (next.tokens ++ others.tokens)

def Element.tokens : Element → List Token
  | .list l => l.tokens
  | .listPair key colon l => key.token :: colon.token .colon :: l.tokens
  | .pair key colon value => [key.token, colon.token .colon, value.token]
  | .scalar value => [value.token]

end

/-! ## No tree spells the end of input -/

theorem Scalar.kind_token_ne (s : Scalar) : s.token.kind ≠ .endOfInput := by
  cases s <;> simp [token, Span.token]

mutual

theorem Element.kind_ne : (e : Element) → ∀ t ∈ e.tokens, t.kind ≠ .endOfInput
  | .list l => by simpa [Element.tokens] using l.kind_ne
  | .listPair key colon l => by
    simpa [Element.tokens, key.kind_token_ne, Span.token] using l.kind_ne
  | .pair key colon s => by
    simp [Element.tokens, key.kind_token_ne, s.kind_token_ne, Span.token]
  | .scalar s => by simp [Element.tokens, s.kind_token_ne]

theorem Others.kind_ne : (o : Others) → ∀ t ∈ o.tokens, t.kind ≠ .endOfInput
  | .nil => by simp [Others.tokens]
  | .comma c => by simp [Others.tokens, Span.token]
  | .cons c next o => by
    simpa [Others.tokens, or_imp, forall_and, Span.token] using ⟨next.kind_ne, o.kind_ne⟩

theorem Bracketed.kind_ne : (l : Bracketed) → ∀ t ∈ l.tokens, t.kind ≠ .endOfInput
  | .empty bracket close => by simp [Bracketed.tokens, Span.token]
  | .mk bracket first o close => by
    simpa [Bracketed.tokens, or_imp, forall_and, Span.token] using ⟨first.kind_ne, o.kind_ne⟩

end

mutual

theorem Item.kind_ne : (i : Item) → ∀ t ∈ i.tokens, t.kind ≠ .endOfInput
  | .anonymous key word colon body => by simpa [Item.tokens, Span.token] using body.kind_ne
  | .list key word colon l => by simpa [Item.tokens, Span.token] using l.kind_ne
  | .expression key word colon text span => by simp [Item.tokens, Span.token]
  | .named key word colon name body => by
    simpa [Item.tokens, name.kind_token_ne, Span.token] using body.kind_ne
  | .scalar key word colon value => by simp [Item.tokens, value.kind_token_ne, Span.token]

theorem Body.kind_ne : (b : Body) → ∀ t ∈ b.tokens, t.kind ≠ .endOfInput
  | .mk brace is close => by
    simpa [Body.tokens, or_imp, forall_and, Span.token] using kind_ne_of_mem_itemTokens is

theorem kind_ne_of_mem_itemTokens : (is : List Item) → ∀ t ∈ itemTokens is, t.kind ≠ .endOfInput
  | [] => by simp [itemTokens]
  | i :: is => by
    simpa [itemTokens, or_imp, forall_and] using ⟨i.kind_ne, kind_ne_of_mem_itemTokens is⟩

end

/-! ## The token after a tree -/

def NotNext (kind : TokenKind) (ts : List Token) : Prop :=
  ∀ t ∈ ts.head?, t.kind ≠ kind

theorem notNext_iff {kind : TokenKind} {ts : List Token} :
    NotNext kind ts ↔ ∀ p q rest, ts ≠ ⟨kind, p, q⟩ :: rest := by
  constructor
  · rintro h p q rest rfl
    exact h _ rfl rfl
  · rintro h ⟨_, p, q⟩ ht rfl
    obtain ⟨rest, rfl⟩ := List.head?_eq_some_iff.1 ht
    exact h p q rest rfl

theorem notNext_itemTokens {rest : List Token} (h : NotNext .leftBrace rest)
    (is : List Item) : NotNext .leftBrace (itemTokens is ++ rest) := by
  cases is with
  | nil => exact h
  | cons i is => cases i <;> simp [itemTokens, Item.tokens, NotNext, Span.token]

theorem notNext_others (o : Others) (close : Span) (rest : List Token) :
    NotNext .colon (o.tokens ++ close.token .rightBracket :: rest) := by
  cases o <;> simp [Others.tokens, NotNext, Span.token]

/-! ## How deep a tree is nested -/

mutual

def Item.nesting : Item → Nat
  | .anonymous _ _ _ body | .named _ _ _ _ body => body.nesting
  | .list _ _ _ l => l.nesting
  | .expression .. | .scalar .. => 0

def Body.nesting : Body → Nat
  | .mk _ items _ => itemNesting items + 1

def itemNesting : List Item → Nat
  | [] => 0
  | i :: is => max i.nesting (itemNesting is)

def Bracketed.nesting : Bracketed → Nat
  | .empty .. => 1
  | .mk _ first others _ => max first.nesting others.nesting + 1

def Others.nesting : Others → Nat
  | .nil | .comma _ => 0
  | .cons _ next others => max next.nesting others.nesting

def Element.nesting : Element → Nat
  | .list l | .listPair _ _ l => l.nesting
  | .pair .. | .scalar _ => 0

end

/-! ## What a tree means -/

/-- Where a list ends. -/
def Bracketed.stop : Bracketed → Position
  | .empty _ close | .mk _ _ _ close => close.stop

mutual

def Bracketed.value : Bracketed → Value
  | .empty .. => .list []
  | .mk _ first others _ => .list (first.value :: others.values)

def Others.values : Others → List Value
  | .nil | .comma _ => []
  | .cons _ next others => next.value :: others.values

def Element.value : Element → Value
  | .list l => l.value
  | .listPair key _ l => .pair key.text l.value
  | .pair key _ value => .pair key.text value.value
  | .scalar value => value.value

end

def Element.stop : Element → Position
  | .list l | .listPair _ _ l => l.stop
  | .pair _ _ value | .scalar value => value.span.stop

mutual

/-- The entry that an item is: a named block, or a property. -/
def Item.read (path : String) : Item → Document.Item
  | .anonymous key word _ body =>
    let b := body.block path key none word.start
    .property (.mk key (.block b) b.location)
  | .list key word _ l => .property (.mk key l.value (.between path word.start l.stop))
  | .expression key word _ text span =>
    .property (.mk key (.text text) (.between path word.start span.stop))
  | .named key word _ name body => .block (body.block path key (some name.text) word.start)
  | .scalar key word _ value =>
    .property (.mk key value.value (.between path word.start value.span.stop))

def Body.block (path keyword : String) (name : Option String) (start : Position) : Body → Block
  | .mk _ items close =>
    .mk (.ofKeyword keyword) name ((readAll path items).filterMap Document.Item.property?)
      ((readAll path items).filterMap Document.Item.block?) (.between path start close.stop)

def readAll (path : String) : List Item → List Document.Item
  | [] => []
  | i :: is => i.read path :: readAll path is

end

theorem readAll_eq_map (path : String) (items : List Item) :
    readAll path items = items.map (Item.read path) := by
  induction items with
  | nil => rfl
  | cons i is ih => rw [readAll, ih, List.map_cons]

/-- The document that items make up: their properties and their named blocks, in source order. -/
def document (path : String) (items : List Item) : Document where
  path := path
  properties := (items.map (Item.read path)).filterMap Document.Item.property?
  blocks := (items.map (Item.read path)).filterMap Document.Item.block?

end LookML.Grammar
