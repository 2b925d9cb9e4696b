import LookML.Proofs.Document.Soundness
/-!
# Where blocks and properties stand

Every block of a document and every property of it, at any depth, is located where its keyword or
name is written.
-/

namespace LookML

variable {P : Location → Prop}

/-! ## Located blocks -/

/-- The block and its own properties stand at places that satisfy `P`. -/
structure Block.Stands (P : Location → Prop) (b : Block) : Prop where
  location : P b.location
  properties : ∀ p ∈ b.properties, P p.location

def Block.Located (P : Location → Prop) (b : Block) : Prop :=
  ∀ c ∈ b.descendants, c.Stands P

/-- So do the property and the blocks inside its value. -/
structure Property.Located (P : Location → Prop) (p : Property) : Prop where
  location : P p.location
  blocks : ∀ c ∈ p.value.blocks, c.Stands P

theorem Property.mem_blocksOf {ps : List Property} {c : Block} :
    c ∈ blocksOf ps ↔ ∃ p ∈ ps, c ∈ p.value.blocks := by
  induction ps with
  | nil => simp [blocksOf]
  | cons p ps ih =>
    obtain ⟨name, value, location⟩ := p
    simp [blocksOf, ih, Property.value]

namespace Block

theorem mem_descendantsOf {bs : List Block} {c : Block} :
    c ∈ descendantsOf bs ↔ ∃ b ∈ bs, c ∈ b.descendants := by
  induction bs with
  | nil => simp [descendantsOf]
  | cons b bs ih => simp [descendantsOf, ih]

theorem mem_descendants {b c : Block} :
    c ∈ b.descendants ↔ c = b ∨ (∃ p ∈ b.properties, c ∈ p.value.blocks) ∨
      ∃ child ∈ b.children, c ∈ child.descendants := by
  obtain ⟨kind, name, ps, inner, location⟩ := b
  simp [descendants, Property.mem_blocksOf, mem_descendantsOf, properties, children]

theorem located_iff {b : Block} :
    b.Located P ↔ P b.location ∧ (∀ p ∈ b.properties, p.Located P) ∧
      ∀ child ∈ b.children, child.Located P := by
  constructor
  · intro h
    have hself := h b (mem_descendants.2 (.inl rfl))
    refine ⟨hself.location, fun p hp => ⟨hself.properties p hp, fun c hc => ?_⟩, ?_⟩
    · exact h c (mem_descendants.2 (.inr (.inl ⟨p, hp, hc⟩)))
    · intro child hchild c hc
      exact h c (mem_descendants.2 (.inr (.inr ⟨child, hchild, hc⟩)))
  · rintro ⟨hlocation, hproperties, hchildren⟩ c hc
    rcases mem_descendants.1 hc with rfl | ⟨p, hp, hc⟩ | ⟨child, hchild, hc⟩
    · exact ⟨hlocation, fun p hp => (hproperties p hp).location⟩
    · exact (hproperties p hp).blocks c hc
    · exact hchildren child hchild c hc

end Block

/-- The properties of a document and the blocks in it stand at places that satisfy `P`. -/
structure Document.Located (P : Location → Prop) (d : Document) : Prop where
  properties : ∀ p ∈ d.properties, p.Located P
  blocks : ∀ b ∈ d.blocks, b.Located P

def Document.Item.Located (P : Location → Prop) : Document.Item → Prop
  | .property p => p.Located P
  | .block b => b.Located P

theorem Document.Item.mem_properties {all : List Document.Item} {p : Property} :
    p ∈ all.filterMap Document.Item.property? ↔ .property p ∈ all := by
  rw [List.mem_filterMap]
  constructor
  · rintro ⟨i, hi, hread⟩
    cases i <;> cases hread
    exact hi
  · exact fun h => ⟨_, h, rfl⟩

theorem Document.Item.mem_blocks {all : List Document.Item} {b : Block} :
    b ∈ all.filterMap Document.Item.block? ↔ .block b ∈ all := by
  rw [List.mem_filterMap]
  constructor
  · rintro ⟨i, hi, hread⟩
    cases i <;> cases hread
    exact hi
  · exact fun h => ⟨_, h, rfl⟩

theorem Document.Item.located_properties {all : List Document.Item} (h : ∀ i ∈ all, i.Located P) :
    ∀ p ∈ all.filterMap Document.Item.property?, p.Located P :=
  fun _ hp => h _ (mem_properties.1 hp)

theorem Document.Item.located_blocks {all : List Document.Item} (h : ∀ i ∈ all, i.Located P) :
    ∀ b ∈ all.filterMap Document.Item.block?, b.Located P :=
  fun _ hb => h _ (mem_blocks.1 hb)

/-! ## Syntax trees -/

namespace Grammar

def Marks (P : Location → Prop) (path : String) (ts : List Token) : Prop :=
  ∀ t ∈ ts, ∀ stop, P (.between path t.start stop)

theorem Scalar.blocks_value (s : Scalar) : s.value.blocks = [] := by
  cases s with
  | word w span =>
    rw [value, Value.ofWord]
    split
    · rw [Value.blocks]
    · split
      · rw [Value.blocks]
      · split <;> rw [Value.blocks]
  | quoted text span => rw [value, Value.blocks]

mutual

theorem Bracketed.blocks_value : (l : Bracketed) → l.value.blocks = []
  | .empty .. => by rw [Bracketed.value, Value.blocks, Value.blocksOf]
  | .mk _ first others _ => by
    rw [Bracketed.value, Value.blocks, Value.blocksOf, first.blocks_value, others.blocks_values]
    rfl

theorem Others.blocks_values : (others : Others) → Value.blocksOf others.values = []
  | .nil => by rw [Others.values, Value.blocksOf]
  | .comma _ => by rw [Others.values, Value.blocksOf]
  | .cons _ next others => by
    rw [Others.values, Value.blocksOf, next.blocks_value, others.blocks_values]
    rfl

theorem Element.blocks_value : (e : Element) → e.value.blocks = []
  | .list l => by rw [Element.value, l.blocks_value]
  | .listPair _ _ l => by rw [Element.value, Value.blocks, l.blocks_value]
  | .pair _ _ s => by rw [Element.value, Value.blocks, s.blocks_value]
  | .scalar s => by rw [Element.value, s.blocks_value]

end

variable {path : String}

theorem located_of_blocks_eq_nil {key : String} {value : Value} {word : Span} {rest : List Token}
    (h : Marks P path (word.token (.word key) :: rest)) (hvalue : value.blocks = [])
    (stop : Position) : (Property.mk key value (.between path word.start stop)).Located P where
  location := h _ List.mem_cons_self stop
  blocks := by simp [Property.value, hvalue]

mutual

theorem Item.located_read : (i : Item) → Marks P path i.tokens → (i.read path).Located P
  | .anonymous key word colon body, h => by
    have hbody := body.located_block key none word.start (h _ List.mem_cons_self)
      fun t ht => h t (List.mem_cons_of_mem _ (List.mem_cons_of_mem _ ht))
    have hblocks : (Value.block (body.block path key none word.start)).blocks =
        (body.block path key none word.start).descendants := by rw [Value.blocks]
    exact ⟨(Block.located_iff.1 hbody).1, fun c hc => hbody c (hblocks ▸ hc)⟩
  | .list key word colon l, h => located_of_blocks_eq_nil h l.blocks_value _
  | .expression key word colon text span, h =>
    located_of_blocks_eq_nil h (by rw [Value.blocks]) _
  | .named key word colon name body, h =>
    body.located_block key (some name.text) word.start (h _ List.mem_cons_self) fun t ht =>
      h t (List.mem_cons_of_mem _ (List.mem_cons_of_mem _ (List.mem_cons_of_mem _ ht)))
  | .scalar key word colon s, h => located_of_blocks_eq_nil h s.blocks_value _

theorem Body.located_block (keyword : String) (name : Option String) (start : Position)
    (hstart : ∀ stop, P (.between path start stop)) :
    (body : Body) → Marks P path body.tokens → (body.block path keyword name start).Located P
  | .mk brace items close, h => by
    have hitems := located_readAll items fun t ht =>
      h t (List.mem_cons_of_mem _ (List.mem_append_left _ ht))
    exact Block.located_iff.2 ⟨hstart close.stop, Document.Item.located_properties hitems,
      Document.Item.located_blocks hitems⟩

theorem located_readAll : (items : List Item) → Marks P path (itemTokens items) →
    ∀ i ∈ readAll path items, i.Located P
  | [], _ => by simp [readAll]
  | i :: is, h => by
    rw [readAll, List.forall_mem_cons]
    exact ⟨i.located_read fun t ht => h t (List.mem_append_left _ ht),
      located_readAll is fun t ht => h t (List.mem_append_right _ ht)⟩

end

end Grammar

/-! ## Main statement -/

theorem Document.located_of_ofTokens {path : String} {ts : List Token} {d : Document}
    (h : ofTokens path ts = .ok d) (hP : Grammar.Marks P path ts) : d.Located P := by
  obtain ⟨all, rest, hitems, _, rfl⟩ := ofTokens_eq_ok.1 h
  obtain ⟨is, rfl, _, rfl⟩ :=
    itemsSpelled path _ 0 _ rest all (Nat.lt_succ_self _) (Nat.zero_le _) hitems
  have hall := Grammar.located_readAll is fun t ht => hP t (List.mem_append_left _ ht)
  exact ⟨Item.located_properties hall, Item.located_blocks hall⟩

end LookML
