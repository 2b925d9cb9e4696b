import LookML.Proofs.Token.Tiling
import Mathlib.Data.Prod.Lex
/-!
# Tokens in order

Positions are ordered as one reads: by line, and on one line by column. What comes later in a text
has a later position. So a token ends after it begins, and no later than the next one begins.
-/

namespace LookML

namespace Position

instance : PartialOrder Position :=
  PartialOrder.lift (fun p => toLex (p.line, p.column)) fun p q h => by
    cases p
    cases q
    simpa using h

theorem lt_iff {p q : Position} :
    p < q ↔ p.line < q.line ∨ p.line = q.line ∧ p.column < q.column :=
  Prod.Lex.toLex_lt_toLex

theorem lt_next (p : Position) (c : Char) : p < p.next c := by
  rw [next]
  split
  · exact lt_iff.2 (.inl (Nat.lt_succ_self _))
  · exact lt_iff.2 (.inr ⟨rfl, Nat.lt_succ_self _⟩)

theorem le_after (p : Position) (cs : List Char) : p ≤ p.after cs := by
  induction cs generalizing p with
  | nil => exact le_refl p
  | cons c cs ih => exact (lt_next p c).le.trans (ih (p.next c))

theorem lt_after (p : Position) {cs : List Char} (h : cs ≠ []) : p < p.after cs := by
  cases cs with
  | nil => exact absurd rfl h
  | cons c cs => exact (lt_next p c).trans_le (le_after _ cs)

theorem ofOffset_eq_after (text : List Char) (i : Nat) :
    ofOffset text i = start.after (text.take i) :=
  (after_start _).symm

theorem ofOffset_lt {text : List Char} {i j : Nat} (hlt : i < j) (hj : j ≤ text.length) :
    ofOffset text i < ofOffset text j := by
  have htake : text.take j = text.take i ++ (text.take j).drop i := by
    rw [← List.take_append_drop i (text.take j), List.take_take, Nat.min_eq_left hlt.le,
      List.drop_left' (by simp; omega)]
  have hbetween : (text.take j).drop i ≠ [] := by
    rw [Ne, List.drop_eq_nil_iff, List.length_take]
    omega
  rw [ofOffset_eq_after, ofOffset_eq_after, htake, after_append]
  exact lt_after _ hbetween

theorem ofOffset_le {text : List Char} {i j : Nat} (hle : i ≤ j) (hj : j ≤ text.length) :
    ofOffset text i ≤ ofOffset text j := by
  rcases Nat.eq_or_lt_of_le hle with rfl | hlt
  · exact le_refl _
  · exact (ofOffset_lt hlt hj).le

end Position

namespace Token

/-- The token stands in the text from offset `start` up to `stop`. -/
structure StandsAt (text : List Char) (t : Token) (start stop : Nat) : Prop where
  lt : start < stop
  le : stop ≤ text.length
  start_eq : t.start = .ofOffset text start
  stop_eq : t.stop = .ofOffset text stop
  spells : Spells (text.extract start stop) t.kind

/-- The tokens follow one another, and each is more than a place. -/
structure InOrder (ts : List Token) : Prop where
  line : ∀ t ∈ ts, 1 ≤ t.start.line
  lt : ∀ t ∈ ts, t.start < t.stop
  pairwise : ts.Pairwise fun t u => t.stop ≤ u.start

theorem InOrder.sublist {ts ts' : List Token} (h : InOrder ts) (hsub : ts'.Sublist ts) :
    InOrder ts' where
  line := fun t ht => h.line t (hsub.subset ht)
  lt := fun t ht => h.lt t (hsub.subset ht)
  pairwise := h.pairwise.sublist hsub

namespace Tiles

variable {text : List Char} {i : Nat} {ts : List Token}

theorem ofOffset_le_start (h : Tiles text i ts) : ∀ t ∈ ts, Position.ofOffset text i ≤ t.start := by
  induction h with
  | token hgap hlt hle _ _ _ ih =>
    have hstart := Position.ofOffset_le hgap (hlt.le.trans hle)
    have hstop := Position.ofOffset_lt hlt hle
    rintro t (_ | ⟨_, ht⟩)
    · exact hstart
    · exact (hstart.trans hstop.le).trans (ih t ht)
  | endOfInput hle _ =>
    intro t ht
    obtain rfl := List.mem_singleton.1 ht
    exact Position.ofOffset_le hle (Nat.le_refl _)

theorem pairwise (h : Tiles text i ts) : ts.Pairwise fun t u => t.stop ≤ u.start := by
  induction h with
  | token _ _ _ _ _ hrest ih => exact .cons hrest.ofOffset_le_start ih
  | endOfInput => exact List.pairwise_singleton _ _

theorem exists_standsAt (h : Tiles text i ts) {t : Token} (ht : t ∈ ts)
    (hkind : t.kind ≠ .endOfInput) : ∃ start stop, StandsAt text t start stop := by
  induction h with
  | token _ hlt hle _ hspells _ ih =>
    rcases List.mem_cons.1 ht with rfl | ht
    · exact ⟨_, _, hlt, hle, rfl, rfl, hspells⟩
    · exact ih ht
  | endOfInput =>
    obtain rfl := List.mem_singleton.1 ht
    exact absurd rfl hkind

end Tiles

theorem StandsAt.one_le_line {text : List Char} {t : Token} {start stop : Nat}
    (h : StandsAt text t start stop) : 1 ≤ t.start.line := by
  rw [h.start_eq]
  exact Nat.le_add_right _ _

theorem inOrder_of_scan {path text : String} {ts rest : List Token}
    (h : scan path text = .ok (ts ++ rest)) (hts : ∀ t ∈ ts, t.kind ≠ .endOfInput) :
    InOrder ts := by
  have htiles := tiles_of_scan h
  have hstands : ∀ t ∈ ts, ∃ start stop, StandsAt text.toList t start stop := fun t ht =>
    htiles.exists_standsAt (List.mem_append_left _ ht) (hts t ht)
  refine ⟨fun t ht => ?_, fun t ht => ?_, (List.pairwise_append.1 htiles.pairwise).1⟩
  · obtain ⟨start, stop, hat⟩ := hstands t ht
    exact hat.one_le_line
  · obtain ⟨start, stop, hat⟩ := hstands t ht
    rw [hat.start_eq, hat.stop_eq]
    exact Position.ofOffset_lt hat.lt hat.le

end Token

end LookML
