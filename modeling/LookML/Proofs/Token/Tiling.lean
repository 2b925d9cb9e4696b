import LookML.Proofs.Except
import LookML.Proofs.Text.Trim
import LookML.Proofs.Token.Lexeme
import Mathlib.Data.List.Induction
/-!
# Tokens tile the text

The tokens of a text lie one after another in it, with nothing but blanks and comments between
them. Each is what its part of the text spells, and begins and ends at the lines and columns that
one counts in the text.
-/

namespace LookML

open Text

namespace Position

/-- The place before the character at offset `i`: one line more than there are line feeds before
it, and one column more than there are characters before it on its line. -/
def ofOffset (text : List Char) (i : Nat) : Position :=
  ⟨1 + (text.take i).count '\n', 1 + ((text.take i).reverse.takeWhile (· ≠ '\n')).length⟩

theorem after_start (cs : List Char) :
    start.after cs = ⟨1 + cs.count '\n', 1 + (cs.reverse.takeWhile (· ≠ '\n')).length⟩ := by
  induction cs using List.reverseRecOn with
  | nil => rfl
  | append_singleton cs c ih =>
    rw [after_append, ih, after_cons, after_nil, next]
    by_cases hc : c = '\n'
    · simp [hc, Nat.add_assoc]
    · simp [hc, Nat.add_comm]

theorem ofOffset_length (consumed rest : List Char) :
    ofOffset (consumed ++ rest) consumed.length = start.after consumed := by
  rw [ofOffset, List.take_left, after_start]

end Position

namespace Token

/-- What a part of a text spells. An expression is trimmed and ends at its only `;;`. -/
inductive Spells : List Char → TokenKind → Prop
  | word {w : List Char} : IsWord w → Spells w (.word (String.ofList w))
  | quoted {raw value : List Char} :
      Resolves raw value → Spells ('"' :: (raw ++ ['"'])) (.quoted (String.ofList value))
  | expression {body : List Char} : (∀ c, body.head? = some c → isBlank c = false) →
      ¬ [';', ';'] <:+: body ++ [';'] →
      Spells (body ++ [';', ';']) (.expression (String.ofList (trimEnd body)))
  | sign {kind : TokenKind} {c : Char} : kind.sign? = some c → Spells [c] kind

/-- The tokens lie one after another in the text from offset `i` on: before each of them is a gap,
and then the part of the text that spells it. The last one is the end of input. -/
inductive Tiles (text : List Char) : Nat → List Token → Prop
  | token {i start stop : Nat} {kind : TokenKind} {ts : List Token} :
      i ≤ start → start < stop → stop ≤ text.length →
      Gap (text.drop i) (text.drop start) → Spells (text.extract start stop) kind →
      Tiles text stop ts →
      Tiles text i (⟨kind, .ofOffset text start, .ofOffset text stop⟩ :: ts)
  | endOfInput {i : Nat} : i ≤ text.length → Gap (text.drop i) [] →
      Tiles text i
        [⟨.endOfInput, .ofOffset text text.length, .ofOffset text text.length⟩]

def TilesFrom (p : Position) (rest : List Char) (ts : List Token) : Prop :=
  ∀ consumed, p = Position.start.after consumed → Tiles (consumed ++ rest) consumed.length ts

theorem Spells.length_pos {slice : List Char} {kind : TokenKind} (h : Spells slice kind) :
    0 < slice.length := by
  cases h with
  | word hword => exact List.length_pos_iff.2 hword.ne_nil
  | quoted => simp
  | expression => simp
  | sign => simp

namespace TilesFrom

variable {p : Position} {rest : List Char} {ts : List Token}

theorem endOfInput (p : Position) : TilesFrom p [] [⟨.endOfInput, p, p⟩] := by
  rintro consumed rfl
  have htiles : Tiles consumed consumed.length
      [⟨.endOfInput, .ofOffset consumed consumed.length, .ofOffset consumed consumed.length⟩] :=
    .endOfInput (Nat.le_refl _) (by rw [List.drop_length]; exact .none)
  have hposition := Position.ofOffset_length consumed []
  rw [List.append_nil] at hposition ⊢
  rwa [hposition] at htiles

theorem skip (between : List Char) (hgap : ∀ left, Gap rest left → Gap (between ++ rest) left)
    (h : TilesFrom (p.after between) rest ts) : TilesFrom p (between ++ rest) ts := by
  rintro consumed rfl
  have htiles := h (consumed ++ between) (Position.after_append _ _ _).symm
  have hdrop : (consumed ++ (between ++ rest)).drop (consumed ++ between).length = rest := by
    rw [← List.append_assoc, List.drop_left]
  rw [List.append_assoc] at htiles
  have hle : consumed.length ≤ (consumed ++ between).length := by simp
  cases htiles with
  | token hstart hlt hstop hfirst hspells hrest =>
    refine .token (Nat.le_trans hle hstart) hlt hstop ?_ hspells hrest
    rw [hdrop] at hfirst
    rw [List.drop_left]
    exact hgap _ hfirst
  | endOfInput hlength hlast =>
    refine .endOfInput (Nat.le_trans hle hlength) ?_
    rw [hdrop] at hlast
    rw [List.drop_left]
    exact hgap _ hlast

theorem token {slice : List Char} {kind : TokenKind} (hspells : Spells slice kind)
    (h : TilesFrom (p.after slice) rest ts) :
    TilesFrom p (slice ++ rest) (⟨kind, p, p.after slice⟩ :: ts) := by
  rintro consumed rfl
  have htiles := h (consumed ++ slice) (Position.after_append _ _ _).symm
  rw [List.append_assoc] at htiles
  have hstart := Position.ofOffset_length consumed (slice ++ rest)
  have hstop := Position.ofOffset_length (consumed ++ slice) rest
  rw [List.append_assoc, Position.after_append] at hstop
  have hslice : (consumed ++ (slice ++ rest)).extract consumed.length (consumed ++ slice).length =
      slice := by
    simp [List.extract_eq_take_drop]
  have hpos := hspells.length_pos
  have hbounds : consumed.length < (consumed ++ slice).length ∧
      (consumed ++ slice).length ≤ (consumed ++ (slice ++ rest)).length := by
    simp only [List.length_append]
    omega
  have htoken := Tiles.token (Nat.le_refl _) hbounds.1 hbounds.2 .none (hslice ▸ hspells) htiles
  rwa [hstart, hstop] at htoken

end TilesFrom

/-! ## Scanning -/

theorem not_mem_takeWhile_ne {cs : List Char} : '\n' ∉ cs.takeWhile (· ≠ '\n') := by
  intro h
  simpa using List.mem_takeWhile_imp h

theorem head?_dropWhile_ne (cs : List Char) (c : Char)
    (h : (cs.dropWhile (· ≠ '\n')).head? = some c) : c = '\n' := by
  have hnot := List.head?_dropWhile_not (· ≠ '\n') cs
  rw [h] at hnot
  simpa using hnot

theorem isWord_takeWhile {c : Char} {cs : List Char} (hcomment : c ≠ '#')
    (hc : isDelimiter c = false) : IsWord (c :: cs.takeWhile (!isDelimiter ·)) where
  ne_nil := List.cons_ne_nil _ _
  head := fun h => hcomment (Option.some.inj h)
  clear := by
    intro d hd
    rcases List.mem_cons.1 hd with rfl | hd
    · exact isDelimiter_eq_false_iff.1 hc
    · exact isDelimiter_eq_false_iff.1 (by simpa using List.mem_takeWhile_imp hd)

theorem isBlank_head_expression {cs body rest : List Char} (h : trimStart cs = body ++ rest)
    (c : Char) (hc : body.head? = some c) : isBlank c = false := by
  have hkept : (trimStart cs).head? = some c := by
    rw [h, List.head?_append, hc]
    rfl
  exact head?_trimStart hkept

theorem tilesFrom_of_scanFrom {path : String} {before : Option String} {p : Position}
    {rest : List Char} {ts : List Token} (h : scanFrom path before p rest = .ok ts) :
    TilesFrom p rest ts := by
  fun_induction scanFrom path before p rest generalizing ts with
  | case1 _ p =>
    cases h
    exact .endOfInput p
  | case2 _ p c cs hblank ih => exact (ih h).skip [c] fun _ => .blank hblank
  | case3 _ p cs _ ih =>
    have hcomment := TilesFrom.skip ('#' :: cs.takeWhile (· ≠ '\n')) (fun _ =>
      .comment not_mem_takeWhile_ne (head?_dropWhile_ne cs)) (ih h)
    rwa [List.cons_append, List.takeWhile_append_dropWhile] at hcomment
  | case4 =>
    rename_i ih
    obtain ⟨ts, hts, rfl⟩ := map_eq_ok.1 h
    exact .token (.sign rfl) (ih hts)
  | case5 => cases h
  | case6 _ p cs key _ body rest hsplit =>
    rename_i ih
    obtain ⟨ts, hts, rfl⟩ := map_eq_ok.1 h
    obtain ⟨hbody, hfirst⟩ := splitAtTerminator_eq_some_iff.1 hsplit
    have hexpression :=
      TilesFrom.token (.expression (isBlank_head_expression hbody) hfirst) (ih hts)
    have hblanks : TilesFrom (p.next ':') _ _ := hexpression.skip (cs.takeWhile isBlank)
      fun _ => .blanks fun c hc => List.mem_takeWhile_imp hc
    have hcs : cs.takeWhile isBlank ++ (body ++ [';', ';'] ++ rest) = cs := by
      rw [List.append_assoc]
      exact hbody ▸ List.takeWhile_append_dropWhile
    exact .token (.sign rfl) (hcs ▸ hblanks)
  | case7 => cases h
  | case8 _ p cs body written rest hsplit =>
    rename_i ih
    obtain ⟨ts, hts, rfl⟩ := map_eq_ok.1 h
    obtain ⟨raw, rfl, hraw⟩ := resolves_of_splitQuoted hsplit
    rw [append_of_splitQuoted hsplit]
    exact .token (.quoted hraw) (ih hts)
  | case9 _ p c cs _ _ _ _ kind hkind ih =>
    obtain ⟨ts, hts, rfl⟩ := map_eq_ok.1 h
    exact .token (.sign (punctuation?_eq_some_iff.1 hkind).1) (ih hts)
  | case10 _ p c cs hblank hcomment hcolon hquote hnone =>
    rename_i ih
    obtain ⟨ts, hts, rfl⟩ := map_eq_ok.1 h
    have hword : IsWord (c :: cs.takeWhile (!isDelimiter ·)) :=
      isWord_takeWhile hcomment
        (isDelimiter_of_punctuation? (by simpa using hblank) hcolon hquote hnone)
    have htoken := TilesFrom.token (.word hword) (ih hts)
    rwa [List.cons_append, List.takeWhile_append_dropWhile] at htoken

theorem tiles_of_scan {path text : String} {ts : List Token} (h : scan path text = .ok ts) :
    Tiles text.toList 0 ts :=
  tilesFrom_of_scanFrom h [] rfl

theorem Spells.kind_ne {slice : List Char} {kind : TokenKind} (h : Spells slice kind) :
    kind ≠ .endOfInput := by
  rintro rfl
  cases h with
  | sign h => cases h

theorem Tiles.exists_endOfInput {text : List Char} {i : Nat} {ts : List Token}
    (h : Tiles text i ts) :
    ∃ body eof, ts = body ++ [eof] ∧ eof.kind = .endOfInput ∧ ∀ t ∈ body, t.kind ≠ .endOfInput := by
  induction h with
  | endOfInput => exact ⟨[], _, rfl, rfl, by simp⟩
  | token _ _ _ _ hspells _ ih =>
    obtain ⟨body, eof, rfl, heof, hbody⟩ := ih
    refine ⟨_ :: body, eof, rfl, heof, ?_⟩
    rintro t (_ | ⟨_, ht⟩)
    · exact hspells.kind_ne
    · exact hbody t ht

/-! ## Main statement -/

/-- The tokens of a text tile it, and the last of them alone is the end of input. -/
theorem scan_tiles {path text : String} {ts : List Token} (h : scan path text = .ok ts) :
    Tiles text.toList 0 ts ∧
      ∃ body eof, ts = body ++ [eof] ∧ eof.kind = .endOfInput ∧
        ∀ t ∈ body, t.kind ≠ .endOfInput :=
  ⟨tiles_of_scan h, (tiles_of_scan h).exists_endOfInput⟩

def threeLines : String :=
  "sql:  é;; # c\n\"\\\"\n\""

theorem scan_tiles_threeLines :
    ∃ ts, scan "f" threeLines = .ok ts ∧ ts.map Token.kind =
        [.word "sql", .colon, .expression "é", .quoted "\"\n", .endOfInput] ∧
      Tiles threeLines.toList 0 ts := by
  have hscan : scan "f" threeLines = .ok
      [⟨.word "sql", ⟨1, 1⟩, ⟨1, 4⟩⟩, ⟨.colon, ⟨1, 4⟩, ⟨1, 5⟩⟩,
        ⟨.expression "é", ⟨1, 7⟩, ⟨1, 10⟩⟩, ⟨.quoted "\"\n", ⟨2, 1⟩, ⟨3, 2⟩⟩,
        ⟨.endOfInput, ⟨3, 2⟩, ⟨3, 2⟩⟩] := by
    decide +kernel
  exact ⟨_, hscan, rfl, (scan_tiles hscan).1⟩

end Token

end LookML
