import LookML.Proofs.Document.Completeness
import LookML.Proofs.Document.Locations
import LookML.Proofs.Token.Order
import Mathlib.Data.List.Pairwise
/-!
# Spans nest

A block is written from its keyword up to its closing brace. What is in it lies inside these, one
entry after another. So the spans of a document's blocks and properties nest as these do.
-/

namespace LookML

namespace Location

def start (l : Location) : Position :=
  ⟨l.line, l.column⟩

def stop (l : Location) : Position :=
  ⟨l.endLine, l.endColumn⟩

@[simp] theorem start_between (path : String) (p q : Position) : (between path p q).start = p := rfl

@[simp] theorem stop_between (path : String) (p q : Position) : (between path p q).stop = q := rfl

/-- The span `l` ends before `m` begins, or where it begins. -/
def Before (l m : Location) : Prop :=
  l.stop ≤ m.start

/-- The span `l` lies in `m`, and does not reach its ends. -/
structure Inside (l m : Location) : Prop where
  start : m.start < l.start
  stop : l.stop < m.stop

/-- The span is one of the file's, and holds a character at least. -/
structure Proper (path : String) (l : Location) : Prop where
  path_eq : l.path = path
  line : 1 ≤ l.line
  lt : l.start < l.stop

theorem Before.ne {path : String} {l m : Location} (h : l.Before m) (hl : l.Proper path) :
    l ≠ m := by
  rintro rfl
  exact (hl.lt.trans_le h).false

end Location

/-! ## Entries -/

def Document.Item.location : Document.Item → Location
  | .property p => p.location
  | .block b => b.location

def Document.Item.blocks : Document.Item → List Block
  | .property p => p.value.blocks
  | .block b => b.descendants

/-- The properties and the blocks of a file or of one block stand side by side, each kind in its
order. A property that is set to a block spans what the block spans. -/
structure Entries (path : String) (properties : List Property) (blocks : List Block) : Prop where
  proper_property : ∀ p ∈ properties, p.location.Proper path
  proper_block : ∀ b ∈ blocks, b.location.Proper path
  properties_before : properties.Pairwise fun p q => p.location.Before q.location
  blocks_before : blocks.Pairwise fun b c => b.location.Before c.location
  disjoint : ∀ p ∈ properties, ∀ b ∈ blocks,
    p.location.Before b.location ∨ b.location.Before p.location
  property_of_block : ∀ p ∈ properties, ∀ b, p.value = .block b → p.location = b.location

namespace Grammar

open Token (InOrder)

variable {path : String}

/-- The block that an item is, or that its property is set to. -/
def Item.block? (path : String) : Item → Option Block
  | .anonymous key word _ body => some (body.block path key none word.start)
  | .named key word _ name body => some (body.block path key (some name.text) word.start)
  | .list .. | .expression .. | .scalar .. => none

theorem Bracketed.exists_last (l : Bracketed) :
    ∃ inner last, l.tokens = inner ++ [last] ∧ last.stop = l.stop := by
  cases l with
  | empty bracket close => exact ⟨[_], _, rfl, rfl⟩
  | mk bracket first others close =>
    refine ⟨bracket.token .leftBracket :: (first.tokens ++ others.tokens),
      close.token .rightBracket, ?_, rfl⟩
    simp [tokens]

theorem Body.exists_last (path : String) (body : Body) (keyword : String) (name : Option String)
    (start : Position) : ∃ inner close, body.tokens = inner ++ [Span.token close .rightBrace] ∧
      (body.block path keyword name start).location = .between path start close.stop := by
  obtain ⟨brace, items, close⟩ := body
  refine ⟨brace.token .leftBrace :: itemTokens items, close, rfl, ?_⟩
  rw [Body.block, Block.location]

theorem Item.exists_span (path : String) (i : Item) : ∃ key word inner last,
    i.tokens = Span.token word (.word key) :: (inner ++ [last]) ∧
      (i.read path).location = .between path word.start last.stop := by
  cases i with
  | anonymous key word colon body =>
    obtain ⟨inner, close, htokens, hlocation⟩ :=
      body.exists_last path key none word.start
    refine ⟨key, word, colon.token .colon :: inner, close.token .rightBrace, ?_, hlocation⟩
    rw [tokens, htokens, List.cons_append]
  | list key word colon l =>
    obtain ⟨inner, last, htokens, hstop⟩ := l.exists_last
    refine ⟨key, word, colon.token .colon :: inner, last, ?_, ?_⟩
    · rw [tokens, htokens, List.cons_append]
    · rw [hstop, read, Document.Item.location, Property.location]
  | expression key word colon text span => exact ⟨key, word, [_], _, rfl, rfl⟩
  | named key word colon name body =>
    obtain ⟨inner, close, htokens, hlocation⟩ :=
      body.exists_last path key (some name.text) word.start
    refine ⟨key, word, colon.token .colon :: name.token :: inner, close.token .rightBrace, ?_,
      hlocation⟩
    rw [tokens, htokens, List.cons_append, List.cons_append]
  | scalar key word colon s =>
    refine ⟨key, word, [_], _, rfl, ?_⟩
    cases s <;> rfl

theorem Item.exists_ends (path : String) (i : Item) : ∃ first ∈ i.tokens, ∃ last ∈ i.tokens,
    (i.read path).location = .between path first.start last.stop := by
  obtain ⟨key, word, inner, last, htokens, hlocation⟩ := i.exists_span path
  exact ⟨word.token (.word key), by simp [htokens], last, by simp [htokens], hlocation⟩

theorem proper_between {first last : Token} {inner : List Token}
    (h : InOrder (first :: (inner ++ [last]))) :
    (Location.between path first.start last.stop).Proper path := by
  have hfirst : first.start < first.stop := h.lt _ List.mem_cons_self
  have hlast : last.start < last.stop := h.lt _ (by simp)
  have hbefore : first.stop ≤ last.start := List.rel_of_pairwise_cons h.pairwise (by simp)
  exact ⟨rfl, h.line _ List.mem_cons_self, (hfirst.trans_le hbefore).trans hlast⟩

theorem Item.proper_location {i : Item} (h : InOrder i.tokens) :
    (i.read path).location.Proper path := by
  obtain ⟨key, word, inner, last, htokens, hlocation⟩ := i.exists_span path
  rw [htokens] at h
  rw [hlocation]
  exact proper_between h

/-! ## Items side by side -/

theorem infix_itemTokens {i : Item} {is : List Item} (h : i ∈ is) : i.tokens <:+: itemTokens is := by
  induction is with
  | nil => cases h
  | cons j is ih =>
    rw [itemTokens]
    rcases List.mem_cons.1 h with rfl | h
    · exact (List.prefix_append _ _).isInfix
    · exact (ih h).trans (List.suffix_append _ _).isInfix

theorem mem_readAll {is : List Item} {x : Document.Item} :
    x ∈ readAll path is ↔ ∃ i ∈ is, i.read path = x := by
  rw [readAll_eq_map, List.mem_map]

theorem pairwise_readAll (path : String) {is : List Item} (h : InOrder (itemTokens is)) :
    (readAll path is).Pairwise fun x y => x.location.Before y.location := by
  induction is with
  | nil => exact .nil
  | cons i is ih =>
    rw [itemTokens] at h
    obtain ⟨_, hrest, hacross⟩ := List.pairwise_append.1 h.pairwise
    refine .cons ?_ (ih (h.sublist (List.sublist_append_right _ _)))
    rintro y hy
    obtain ⟨j, hj, rfl⟩ := mem_readAll.1 hy
    obtain ⟨_, _, last, hlast, hlocation⟩ := i.exists_ends path
    obtain ⟨first, hfirst, _, _, hlocation'⟩ := j.exists_ends path
    rw [Location.Before, hlocation, hlocation']
    exact hacross last hlast first ((infix_itemTokens hj).subset hfirst)

theorem ne_block_of_blocks_eq_nil {v : Value} (h : v.blocks = []) (b : Block) : v ≠ .block b := by
  rintro rfl
  rw [Value.blocks] at h
  have hself : b ∈ b.descendants := Block.mem_descendants.2 (.inl rfl)
  rw [h] at hself
  cases hself

theorem Item.location_of_block {i : Item} {p : Property} {b : Block} (h : i.read path = .property p)
    (hvalue : p.value = .block b) : p.location = b.location := by
  cases i with
  | anonymous key word colon body =>
    cases h
    cases hvalue
    rfl
  | list key word colon l =>
    cases h
    exact absurd hvalue (ne_block_of_blocks_eq_nil l.blocks_value b)
  | expression key word colon text span =>
    cases h
    cases hvalue
  | named key word colon name body => cases h
  | scalar key word colon s =>
    cases h
    exact absurd hvalue (ne_block_of_blocks_eq_nil s.blocks_value b)

theorem entries_of_inOrder {is : List Item} (h : InOrder (itemTokens is)) :
    Entries path ((readAll path is).filterMap Document.Item.property?)
      ((readAll path is).filterMap Document.Item.block?) := by
  have hproper : ∀ x ∈ readAll path is, x.location.Proper path := by
    intro x hx
    obtain ⟨i, hi, rfl⟩ := mem_readAll.1 hx
    exact Item.proper_location (h.sublist (infix_itemTokens hi).sublist)
  have hpairwise := pairwise_readAll path h
  have hsymm : Std.Symm fun x y : Document.Item =>
      x.location.Before y.location ∨ y.location.Before x.location := ⟨fun _ _ => Or.symm⟩
  have hapart : ∀ ⦃x⦄, x ∈ readAll path is → ∀ ⦃y⦄, y ∈ readAll path is → x ≠ y →
      x.location.Before y.location ∨ y.location.Before x.location :=
    (hpairwise.imp Or.inl).forall
  refine ⟨fun p hp => ?_, fun b hb => ?_, ?_, ?_, fun p hp b hb => ?_, fun p hp b hvalue => ?_⟩
  · exact hproper _ (Document.Item.mem_properties.1 hp)
  · exact hproper _ (Document.Item.mem_blocks.1 hb)
  · refine hpairwise.filterMap _ fun x y hbefore p hp q hq => ?_
    cases x <;> cases hp
    cases y <;> cases hq
    exact hbefore
  · refine hpairwise.filterMap _ fun x y hbefore p hp q hq => ?_
    cases x <;> cases hp
    cases y <;> cases hq
    exact hbefore
  · exact hapart (Document.Item.mem_properties.1 hp) (Document.Item.mem_blocks.1 hb) nofun
  · obtain ⟨i, _, hread⟩ := mem_readAll.1 (Document.Item.mem_properties.1 hp)
    exact Item.location_of_block hread hvalue

end Grammar

/-! ## Blocks -/

/-- What is in the block stands inside its span, side by side. -/
structure Block.Nested (path : String) (b : Block) : Prop where
  proper : b.location.Proper path
  entries : Entries path b.properties b.children
  property_inside : ∀ p ∈ b.properties, p.location.Inside b.location
  child_inside : ∀ c ∈ b.children, c.location.Inside b.location

/-- The block is what the item reads as: in the text it begins with its keyword and ends with its
closing brace, the first and the last token of the item. -/
structure Block.WrittenAs (path : String) (text : List Char) (b : Block) (i : Grammar.Item) :
    Prop where
  block_eq : i.block? path = some b
  keyword : ∃ first key start stop, i.tokens.head? = some first ∧ first.kind = .word key ∧
    BlockKind.ofKeyword key = b.kind ∧ first.StandsAt text start stop ∧
      b.location.start = first.start
  brace : ∃ last start stop, i.tokens.getLast? = some last ∧ last.kind = .rightBrace ∧
    last.StandsAt text start stop ∧ b.location.stop = last.stop

namespace Grammar

open Token (InOrder)

variable {path : String}

theorem inside_between {first last : Token} {is : List Item} {x : Document.Item}
    (h : InOrder (first :: (itemTokens is ++ [last]))) (hx : x ∈ readAll path is) :
    x.location.Inside (.between path first.start last.stop) := by
  obtain ⟨i, hi, rfl⟩ := mem_readAll.1 hx
  obtain ⟨t, ht, u, hu, hlocation⟩ := i.exists_ends path
  have hsub : i.tokens ⊆ itemTokens is := (infix_itemTokens hi).subset
  have hafter : first.stop ≤ t.start :=
    List.rel_of_pairwise_cons h.pairwise (List.mem_append_left _ (hsub ht))
  have hbefore : u.stop ≤ last.start :=
    (List.pairwise_append.1 h.pairwise.of_cons).2.2 u (hsub hu) last List.mem_cons_self
  rw [hlocation]
  exact ⟨(h.lt first List.mem_cons_self).trans_le hafter,
    hbefore.trans_lt (h.lt last (by simp))⟩

theorem Body.nested_block (body : Body) {key : String} (name : Option String) {word : Span}
    {between : List Token} (h : InOrder (word.token (.word key) :: (between ++ body.tokens))) :
    (body.block path key name word.start).Nested path := by
  obtain ⟨brace, items, close⟩ := body
  have hends : InOrder (word.token (.word key) :: (itemTokens items ++ [close.token .rightBrace])) :=
    h.sublist (.cons_cons _ (List.sublist_append_of_sublist_right (.cons _ (.refl _))))
  have hitems : InOrder (itemTokens items) :=
    hends.sublist (.cons _ (List.sublist_append_left _ _))
  rw [Body.block]
  exact ⟨proper_between hends, entries_of_inOrder hitems,
    fun p hp => inside_between hends (Document.Item.mem_properties.1 hp),
    fun c hc => inside_between hends (Document.Item.mem_blocks.1 hc)⟩

theorem Item.exists_body {i : Item} {b : Block} (h : i.block? path = some b) :
    ∃ key word between body name,
      i.tokens = Span.token word (.word key) :: (between ++ Body.tokens body) ∧
        body.block path key name word.start = b := by
  cases i with
  | anonymous key word colon body =>
    cases h
    exact ⟨key, word, [_], body, _, rfl, rfl⟩
  | named key word colon name body =>
    cases h
    exact ⟨key, word, [_, _], body, _, rfl, rfl⟩
  | list | expression | scalar => cases h

mutual

theorem Item.exists_of_mem_blocks : (i : Item) → ∀ b ∈ (i.read path).blocks,
    ∃ j : Item, j.tokens <:+: i.tokens ∧ j.block? path = some b
  | .anonymous key word colon body, b, hb => by
    have hblocks : ((Item.anonymous key word colon body).read path).blocks =
        (body.block path key none word.start).descendants := by
      rw [Item.read, Document.Item.blocks, Property.value, Value.blocks]
    rcases body.exists_of_mem_descendants b (hblocks ▸ hb) with rfl | ⟨j, htokens, hj⟩
    · exact ⟨_, List.infix_rfl, rfl⟩
    · exact ⟨j, htokens.trans (List.suffix_append [_, _] _).isInfix, hj⟩
  | .list key word colon l, b, hb => by
    rw [Item.read, Document.Item.blocks, Property.value, l.blocks_value] at hb
    cases hb
  | .expression key word colon text span, b, hb => by
    rw [Item.read, Document.Item.blocks, Property.value, Value.blocks] at hb
    cases hb
  | .named key word colon name body, b, hb => by
    rw [Item.read, Document.Item.blocks] at hb
    rcases body.exists_of_mem_descendants b hb with rfl | ⟨j, htokens, hj⟩
    · exact ⟨_, List.infix_rfl, rfl⟩
    · exact ⟨j, htokens.trans (List.suffix_append [_, _, _] _).isInfix, hj⟩
  | .scalar key word colon s, b, hb => by
    rw [Item.read, Document.Item.blocks, Property.value, s.blocks_value] at hb
    cases hb

theorem Body.exists_of_mem_descendants {key : String} {name : Option String} {start : Position} :
    (body : Body) → ∀ b ∈ (body.block path key name start).descendants,
      b = body.block path key name start ∨
        ∃ j : Item, j.tokens <:+: body.tokens ∧ j.block? path = some b
  | .mk brace items close, b, hb => by
    have hinfix : itemTokens items <:+: Body.tokens (.mk brace items close) :=
      ⟨[brace.token .leftBrace], [close.token .rightBrace], by simp [Body.tokens]⟩
    rcases Block.mem_descendants.1 hb with rfl | ⟨p, hp, hb⟩ | ⟨c, hc, hb⟩
    · exact .inl rfl
    · rw [Body.block, Block.properties] at hp
      obtain ⟨j, htokens, hj⟩ :=
        exists_of_mem_readAll items _ (Document.Item.mem_properties.1 hp) b hb
      exact .inr ⟨j, htokens.trans hinfix, hj⟩
    · rw [Body.block, Block.children] at hc
      obtain ⟨j, htokens, hj⟩ := exists_of_mem_readAll items _ (Document.Item.mem_blocks.1 hc) b hb
      exact .inr ⟨j, htokens.trans hinfix, hj⟩

theorem exists_of_mem_readAll : (is : List Item) → ∀ x ∈ readAll path is, ∀ b ∈ x.blocks,
    ∃ j : Item, j.tokens <:+: itemTokens is ∧ j.block? path = some b
  | [], x, hx, b, hb => by
    rw [readAll] at hx
    cases hx
  | i :: is, x, hx, b, hb => by
    rw [readAll] at hx
    rcases List.mem_cons.1 hx with rfl | hx
    · obtain ⟨j, htokens, hj⟩ := i.exists_of_mem_blocks b hb
      exact ⟨j, htokens.trans (List.prefix_append _ _).isInfix, hj⟩
    · obtain ⟨j, htokens, hj⟩ := exists_of_mem_readAll is x hx b hb
      exact ⟨j, htokens.trans (List.suffix_append _ _).isInfix, hj⟩

end

theorem Item.exists_brace {i : Item} {b : Block} (h : i.block? path = some b) :
    ∃ key word inner close,
      i.tokens = Span.token word (.word key) :: (inner ++ [Span.token close .rightBrace]) ∧
        BlockKind.ofKeyword key = b.kind ∧ b.location = .between path word.start close.stop := by
  obtain ⟨key, word, between, body, name, htokens, rfl⟩ := exists_body h
  obtain ⟨inner, close, hbody, hlocation⟩ := body.exists_last path key name word.start
  refine ⟨key, word, between ++ inner, close, ?_, ?_, hlocation⟩
  · rw [htokens, hbody, List.append_assoc]
  · cases body
    rw [Body.block, Block.kind]

theorem Item.writtenAs {i : Item} {b : Block} {text : List Char}
    (hstands : ∀ t ∈ i.tokens, ∃ start stop, t.StandsAt text start stop)
    (h : i.block? path = some b) : b.WrittenAs path text i := by
  obtain ⟨key, word, inner, close, htokens, hkind, hlocation⟩ := exists_brace h
  obtain ⟨start, stop, hword⟩ := hstands (word.token (.word key)) (by simp [htokens])
  obtain ⟨start', stop', hclose⟩ := hstands (close.token .rightBrace) (by simp [htokens])
  refine ⟨h, ⟨_, key, start, stop, ?_, rfl, hkind, hword, ?_⟩,
    ⟨_, start', stop', ?_, rfl, hclose, ?_⟩⟩
  · rw [htokens, List.head?_cons]
  · rw [hlocation, Location.start_between]
    rfl
  · rw [htokens, ← List.cons_append, List.getLast?_concat]
  · rw [hlocation, Location.stop_between]
    rfl

end Grammar

/-! ## Main statement -/

namespace Document

/-- The blocks of a document at any depth, those that properties are set to included. -/
def nestedBlocks (d : Document) : List Block :=
  Property.blocksOf d.properties ++ d.allBlocks

/-- The document's properties and blocks stand side by side, and so do those of each block, inside
its span. Each block is written in the tokens. -/
structure Nested (path : String) (text : List Char) (ts : List Token) (d : Document) : Prop where
  path_eq : d.path = path
  entries : Entries path d.properties d.blocks
  nested : ∀ b ∈ d.nestedBlocks, b.Nested path
  written : ∀ b ∈ d.nestedBlocks, ∃ i : Grammar.Item, i.tokens <:+: ts ∧ b.WrittenAs path text i

theorem nested_of_scan {path text : String} {is : List Grammar.Item} {rest : List Token}
    (hscan : Token.scan path text = .ok (Grammar.itemTokens is ++ rest)) :
    (Grammar.document path is).Nested path text.toList (Grammar.itemTokens is ++ rest) := by
  have hkinds := Grammar.kind_ne_of_mem_itemTokens is
  have horder : Token.InOrder (Grammar.itemTokens is) := Token.inOrder_of_scan hscan hkinds
  have hstands : ∀ t ∈ Grammar.itemTokens is, ∃ start stop, t.StandsAt text.toList start stop :=
    fun t ht => (Token.tiles_of_scan hscan).exists_standsAt (List.mem_append_left _ ht) (hkinds t ht)
  have hitem : ∀ b ∈ (Grammar.document path is).nestedBlocks,
      ∃ i : Grammar.Item, i.tokens <:+: Grammar.itemTokens is ∧ i.block? path = some b := by
    intro b hb
    rw [Grammar.document, ← Grammar.readAll_eq_map] at hb
    rcases List.mem_append.1 hb with hb | hb
    · obtain ⟨p, hp, hb⟩ := Property.mem_blocksOf.1 hb
      exact Grammar.exists_of_mem_readAll is _ (Item.mem_properties.1 hp) b hb
    · obtain ⟨c, hc, hb⟩ := Block.mem_descendantsOf.1 hb
      exact Grammar.exists_of_mem_readAll is _ (Item.mem_blocks.1 hc) b hb
  refine ⟨rfl, ?_, fun b hb => ?_, fun b hb => ?_⟩
  · rw [Grammar.document, ← Grammar.readAll_eq_map]
    exact Grammar.entries_of_inOrder horder
  · obtain ⟨i, hi, hblock⟩ := hitem b hb
    obtain ⟨key, word, between, body, name, htokens, rfl⟩ := Grammar.Item.exists_body hblock
    exact body.nested_block name (htokens ▸ horder.sublist hi.sublist)
  · obtain ⟨i, hi, hblock⟩ := hitem b hb
    exact ⟨i, hi.trans (List.prefix_append _ _).isInfix,
      Grammar.Item.writtenAs (fun t ht => hstands t (hi.subset ht)) hblock⟩

theorem exists_items_of_parse {path text : String} {d : Document} (h : parse path text = .ok d) :
    ∃ is rest, Token.scan path text = .ok (Grammar.itemTokens is ++ rest) ∧
      Grammar.document path is = d := by
  obtain ⟨ts, hscan, htokens⟩ := bind_eq_ok.1 h
  obtain ⟨all, rest, hitems, _, rfl⟩ := ofTokens_eq_ok.1 htokens
  obtain ⟨is, rfl, _, rfl⟩ :=
    itemsSpelled path _ 0 _ rest all (Nat.lt_succ_self _) (Nat.zero_le _) hitems
  refine ⟨is, rest, hscan, ?_⟩
  rw [Grammar.document, Grammar.readAll_eq_map]

/-- The spans in a parsed text nest as its blocks do: each lies strictly inside that of the block
around it, and those that are side by side are disjoint and in order. A block runs from its keyword
to just past its closing brace. -/
theorem spans_nest {path text : String} {d : Document} (h : parse path text = .ok d) :
    ∃ ts, Token.scan path text = .ok ts ∧ d.Nested path text.toList ts := by
  obtain ⟨is, rest, hscan, rfl⟩ := exists_items_of_parse h
  exact ⟨_, hscan, nested_of_scan hscan⟩

def linkedView : String :=
  "view: v \x7b link: \x7b url: u \x7d dimension: d \x7b\x7d \x7d"

def linkedViewItems : List Grammar.Item :=
  let span (start stop : Nat) : Grammar.Span := ⟨⟨1, start⟩, ⟨1, stop⟩⟩
  let url := Grammar.Item.scalar "url" (span 19 22) (span 22 23) (.word "u" (span 24 25))
  let link := Grammar.Item.anonymous "link" (span 11 15) (span 15 16)
    (.mk (span 17 18) [url] (span 26 27))
  let dimension := Grammar.Item.named "dimension" (span 28 37) (span 37 38) (.word "d" (span 39 40))
    (.mk (span 41 42) [] (span 42 43))
  [.named "view" (span 1 5) (span 5 6) (.word "v" (span 7 8))
    (.mk (span 9 10) [link, dimension] (span 44 45))]

theorem spans_nest_linkedView :
    ∃ d, parse "f" linkedView = .ok d ∧
      d.nestedBlocks.map Block.location =
        [⟨"f", 1, 1, 1, 45⟩, ⟨"f", 1, 11, 1, 27⟩, ⟨"f", 1, 28, 1, 43⟩] ∧
      ∃ ts, Token.scan "f" linkedView = .ok ts ∧ d.Nested "f" linkedView.toList ts := by
  have hscan : Token.scan "f" linkedView =
      .ok (Grammar.itemTokens linkedViewItems ++ [⟨.endOfInput, ⟨1, 45⟩, ⟨1, 45⟩⟩]) := by
    decide +kernel
  have hparse : parse "f" linkedView = .ok (Grammar.document "f" linkedViewItems) :=
    parse_of_scan hscan rfl (by decide)
  exact ⟨_, hparse, by decide +kernel, spans_nest hparse⟩

end Document

end LookML
