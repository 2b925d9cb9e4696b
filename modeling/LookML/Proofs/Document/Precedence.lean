import LookML.Proofs.Document.Viability
import LookML.Proofs.Token.Breaks
import LookML.Proofs.Token.Order
/-!
# Which syntax error is reported

A text is scanned to its end before any of it is parsed. So where it breaks off, at a string or an
expression that has no end, that is what is reported, whatever stands before it. The text up to
there can be scanned, as the same tokens. An earlier error is hidden exactly if that text is parsed
with an error before its end.
-/

namespace LookML.Document

open Token (Broken)

variable {path text : String} {ts : List Token} {eof : Token} {e : SyntaxError}

/-! ## Errors of the parser -/

theorem accepted_of_ofTokens {d : Document} (hts : ∀ t ∈ ts, t.kind ≠ .endOfInput)
    (heof : eof.kind = .endOfInput) (h : ofTokens path (ts ++ [eof]) = .ok d) : Accepted ts := by
  obtain ⟨all, rest, hitems, hend, -⟩ := ofTokens_eq_ok.1 h
  obtain ⟨is, htokens, hnesting, -⟩ :=
    itemsSpelled path _ 0 _ rest all (Nat.lt_succ_self _) (Nat.zero_le _) hitems
  have hends : Ends (Grammar.itemTokens is ++ rest) := htokens ▸ ⟨eof, by simp, heof⟩
  obtain ⟨t, after, rfl⟩ := (hends.rest _ (Grammar.kind_ne_of_mem_itemTokens is)).exists_cons
  exact ⟨is, before_endOfInput hts htokens hend, by omega⟩

/-- An error of the parser stands at the end of the tokens, which then could go on to be a document,
or at a token before it, and with that token they could not. -/
theorem end_or_firstImpossible (hts : ∀ t ∈ ts, t.kind ≠ .endOfInput)
    (heof : eof.kind = .endOfInput) (h : ofTokens path (ts ++ [eof]) = .error e) :
    (e.position = eof.start ∧ ∃ rest, Accepted (ts ++ rest)) ∨
      ∃ before t after, ts = before ++ t :: after ∧ FirstImpossible path ts e before t := by
  obtain ⟨before, t, after, hall, hblames, ⟨rest, is, htokens, hnesting⟩, hstuck⟩ :=
    stuck_of_ofTokens ⟨eof, by simp, heof⟩ h
  have hpossible : Accepted (before ++ rest) := ⟨is, htokens, by omega⟩
  rcases List.eq_nil_or_concat after with rfl | ⟨after, last, rfl⟩
  · obtain ⟨rfl, hlast⟩ := List.append_inj' hall rfl
    obtain rfl := (List.cons.inj hlast).1
    exact .inl ⟨hblames.position, rest, hpossible⟩
  · rw [List.concat_eq_append, ← List.cons_append, ← List.append_assoc] at hall
    obtain ⟨rfl, -⟩ := List.append_inj' hall rfl
    refine .inr ⟨before, t, after, rfl, hblames, ⟨rest, hpossible⟩, fun more haccepted => ?_, ?_⟩
    · obtain ⟨d, hread⟩ : Reads (ofTokens path) _ := haccepted.reads heof
      rw [List.append_assoc] at hread
      exact hstuck _ ⟨d, hread⟩
    · exact fun hkind => absurd hkind (hts t (by simp))

theorem scan_eq_error (h : parse path text = .error e)
    (hcode : e.cause.code = "P002" ∨ e.cause.code = "P003") : Token.scan path text = .error e := by
  rcases bind_eq_error.1 h with hscan | ⟨ts, hscan, htokens⟩
  · exact hscan
  · obtain ⟨body, eof, rfl, heof, -⟩ := (Token.tiles_of_scan hscan).exists_endOfInput
    obtain ⟨_, t, _, _, hblames, -⟩ := stuck_of_ofTokens ⟨eof, by simp, heof⟩ htokens
    rcases hblames.cause with hcause | ⟨expected, hcause⟩ <;>
      rw [hcause] at hcode <;> exact absurd hcode (by simp [SyntaxError.Cause.code])

/-! ## Texts that break off -/

/-- The text breaks off with `e` where the text `before` ends, which is scanned alone as the tokens
`ts`. They are what the text is scanned as up to there, and begin before it breaks off. -/
structure BreaksOffAfter (path text : String) (e : SyntaxError) (before : String)
    (ts : List Token) : Prop where
  broken : Broken path none .start text.toList e before.toList ts
  scan : Token.scan path before = .ok (ts ++ [⟨.endOfInput, e.position, e.position⟩])
  kind_ne : ∀ t ∈ ts, t.kind ≠ .endOfInput
  earlier : ∀ t ∈ ts, t.start < e.position

theorem exists_breaksOffAfter (h : Token.scan path text = .error e) :
    ∃ before ts, BreaksOffAfter path text e before ts := by
  obtain ⟨slice, ts, hbroken⟩ := Token.exists_broken h
  obtain ⟨left, before', -, hreads, -⟩ := hbroken.exists_left
  have hscan : Token.scan path (String.ofList slice) =
      .ok (ts ++ [⟨.endOfInput, e.position, e.position⟩]) := by
    rw [Token.scan, String.toList_ofList, hreads.scanFrom_eq_ok, hbroken.position]
  have htiles := Token.tiles_of_scan hscan
  have hkind : ∀ t ∈ ts, t.kind ≠ .endOfInput := by
    obtain ⟨body, eof, hbody, -, hkind⟩ := htiles.exists_endOfInput
    rwa [(List.append_inj' hbody rfl).1]
  have hordered := Token.inOrder_of_scan hscan hkind
  have hpairwise := List.pairwise_append.1 htiles.pairwise
  refine ⟨String.ofList slice, ts, ⟨?_, hscan, hkind, fun t ht => ?_⟩⟩
  · rwa [String.toList_ofList]
  · calc t.start < t.stop := hordered.lt t ht
      _ ≤ e.position := hpairwise.2.2 t ht _ (List.mem_singleton.2 rfl)

namespace BreaksOffAfter

variable {before : String} (h : BreaksOffAfter path text e before ts)

include h

theorem parse_eq : parse path before =
    ofTokens path (ts ++ [⟨.endOfInput, e.position, e.position⟩]) := by
  rw [parse, h.scan]
  rfl

theorem before_eq {slice : String} (hslice : slice.toList <+: text.toList)
    (hposition : e.position = Position.start.after slice.toList) : before = slice := by
  obtain ⟨left, -, htext, -⟩ := h.broken.exists_left
  have hbefore : before.toList <+: text.toList := ⟨left, htext.symm⟩
  have hsame : Position.start.after before.toList = Position.start.after slice.toList :=
    h.broken.position.symm.trans hposition
  apply String.toList_injective
  rcases List.prefix_or_prefix_of_prefix hbefore hslice with ⟨more, hmore⟩ | ⟨more, hmore⟩
  · rw [← hmore, Position.after_append] at hsame
    rw [← hmore, List.self_eq_append_right]
    exact not_not.1 fun hne => (Position.lt_after _ hne).ne hsame
  · rw [← hmore, Position.after_append] at hsame
    rw [← hmore, List.append_right_eq_self]
    exact not_not.1 fun hne => (Position.lt_after _ hne).ne hsame.symm

/-- What is complained about before the text breaks off cannot be part of a document. -/
theorem exists_firstImpossible {hidden : SyntaxError} (hparse : parse path before = .error hidden)
    (hposition : hidden.position < e.position) :
    ∃ possible t after, ts = possible ++ t :: after ∧
      FirstImpossible path ts hidden possible t := by
  rw [h.parse_eq] at hparse
  rcases end_or_firstImpossible h.kind_ne rfl hparse with ⟨hend, -⟩ | himpossible
  · exact absurd hend hposition.ne
  · exact himpossible

theorem exists_accepted_iff : (∃ rest, Accepted (ts ++ rest)) ↔
    ¬ ∃ hidden, parse path before = .error hidden ∧ hidden.position < e.position := by
  constructor
  · rintro ⟨rest, haccepted⟩ ⟨hidden, hparse, hposition⟩
    obtain ⟨possible, t, after, rfl, himpossible⟩ := h.exists_firstImpossible hparse hposition
    rw [List.append_assoc] at haccepted
    exact himpossible.impossible _ haccepted
  · intro hnone
    cases hparse : parse path before with
    | ok d =>
      rw [h.parse_eq] at hparse
      exact ⟨[], by simpa using accepted_of_ofTokens h.kind_ne rfl hparse⟩
    | error hidden =>
      have hparse' := hparse
      rw [h.parse_eq] at hparse
      rcases end_or_firstImpossible h.kind_ne rfl hparse with ⟨-, hpossible⟩ | himpossible
      · exact hpossible
      · obtain ⟨possible, t, after, rfl, hfirst⟩ := himpossible
        have hearlier := h.earlier t (by simp)
        rw [← hfirst.blames.position] at hearlier
        exact absurd ⟨hidden, hparse', hearlier⟩ hnone

end BreaksOffAfter

/-! ## Main statement -/

/-- Where a text breaks off, the tokens before could go on to be a document, unless the text before
is parsed with an error before its end. That error is hidden, and stands at the first of the tokens
that cannot be part of a document. -/
theorem earlier_error_hidden (h : parse path text = .error e)
    (hcode : e.cause.code = "P002" ∨ e.cause.code = "P003") :
    ∃ before ts, BreaksOffAfter path text e before ts ∧
      ((∃ rest, Accepted (ts ++ rest)) ↔
        ¬ ∃ hidden, parse path before = .error hidden ∧ hidden.position < e.position) ∧
      ∀ hidden, parse path before = .error hidden → hidden.position < e.position →
        ∃ possible t after, ts = possible ++ t :: after ∧
          FirstImpossible path ts hidden possible t := by
  obtain ⟨before, ts, hbefore⟩ := exists_breaksOffAfter (scan_eq_error h hcode)
  exact ⟨before, ts, hbefore, hbefore.exists_accepted_iff,
    fun _ => hbefore.exists_firstImpossible⟩

def unendedBlock : String :=
  "view: v \x7b sql: 1"

def unendedSql : SyntaxError :=
  ⟨"f", ⟨1, 14⟩, .unterminatedExpression "sql"⟩

theorem earlier_error_hidden_unendedBlock :
    parse "f" unendedBlock = .error unendedSql ∧ unendedSql.cause.code = "P003" ∧
      ∃ before ts, BreaksOffAfter "f" unendedBlock unendedSql before ts ∧
        ((∃ rest, Accepted (ts ++ rest)) ↔
          ¬ ∃ hidden, parse "f" before = .error hidden ∧
            hidden.position < unendedSql.position) ∧
        ∀ hidden, parse "f" before = .error hidden → hidden.position < unendedSql.position →
          ∃ possible t after, ts = possible ++ t :: after ∧
            FirstImpossible "f" ts hidden possible t := by
  have hscan : Token.scan "f" unendedBlock = .error unendedSql := by
    decide +kernel
  have hparse : parse "f" unendedBlock = .error unendedSql := by
    rw [parse, hscan]
    rfl
  exact ⟨hparse, rfl, earlier_error_hidden hparse (.inr rfl)⟩

def strayBrace : String :=
  "view: a \x7b\x7d\n\x7d\nview: b \x7b label: \"B \x7d\n"

def unendedLabel : SyntaxError :=
  ⟨"a.lkml", ⟨3, 18⟩, .unterminatedString⟩

/-- The string is reported, and the brace is not. -/
theorem brace_hidden_strayBrace :
    parse "a.lkml" strayBrace = .error unendedLabel ∧
      ∃ before ts, BreaksOffAfter "a.lkml" strayBrace unendedLabel before ts ∧
        ∀ rest, ¬ Accepted (ts ++ rest) := by
  have hscan : Token.scan "a.lkml" strayBrace = .error unendedLabel := by
    decide +kernel
  have hparse : parse "a.lkml" strayBrace = .error unendedLabel := by
    rw [parse, hscan]
    rfl
  obtain ⟨before, ts, hbefore⟩ := exists_breaksOffAfter hscan
  refine ⟨hparse, before, ts, hbefore, fun rest haccepted => ?_⟩
  obtain rfl : before = "view: a \x7b\x7d\n\x7d\nview: b \x7b label: " :=
    hbefore.before_eq (by decide +kernel) (by decide +kernel)
  refine hbefore.exists_accepted_iff.1 ⟨rest, haccepted⟩ ⟨⟨"a.lkml", ⟨2, 1⟩,
    .unexpected .propertyName .rightBrace⟩, ?_, by decide⟩
  have htokens : Token.scan "a.lkml" "view: a \x7b\x7d\n\x7d\nview: b \x7b label: " =
      .ok [⟨.word "view", ⟨1, 1⟩, ⟨1, 5⟩⟩, ⟨.colon, ⟨1, 5⟩, ⟨1, 6⟩⟩, ⟨.word "a", ⟨1, 7⟩, ⟨1, 8⟩⟩,
        ⟨.leftBrace, ⟨1, 9⟩, ⟨1, 10⟩⟩, ⟨.rightBrace, ⟨1, 10⟩, ⟨1, 11⟩⟩,
        ⟨.rightBrace, ⟨2, 1⟩, ⟨2, 2⟩⟩, ⟨.word "view", ⟨3, 1⟩, ⟨3, 5⟩⟩, ⟨.colon, ⟨3, 5⟩, ⟨3, 6⟩⟩,
        ⟨.word "b", ⟨3, 7⟩, ⟨3, 8⟩⟩, ⟨.leftBrace, ⟨3, 9⟩, ⟨3, 10⟩⟩,
        ⟨.word "label", ⟨3, 11⟩, ⟨3, 16⟩⟩, ⟨.colon, ⟨3, 16⟩, ⟨3, 17⟩⟩,
        ⟨.endOfInput, ⟨3, 18⟩, ⟨3, 18⟩⟩] := by
    decide +kernel
  rw [parse, htokens]
  simp [ofTokens, items, item, block, current, maxNesting, bind, Except.bind, pure, Except.pure,
    SyntaxError.unexpected]

end LookML.Document
