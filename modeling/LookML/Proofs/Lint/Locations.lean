import LookML.Proofs.Document.Errors
import LookML.Proofs.Evaluation.Locations
import LookML.Proofs.Evaluation.Selection
import LookML.Proofs.Lint
import LookML.Proofs.Token.Breaks
/-!
# Where violations stand

Every violation of a run stands in one of the files, at a line and a column where a token of the
file begins, and so does every place that is related to it. Only a string or an expression that has
no end is no token: it is reported where it begins.
-/

namespace LookML

/-! ## Files and their tokens -/

/-- A token of the file begins at `p`, the end of input being one. -/
def Source.HasToken (s : Source) (p : Position) : Prop :=
  ∃ ts, Token.scan s.path s.text = .ok ts ∧ ∃ t ∈ ts, t.start = p

/-- The location begins where a token of one of the files does. -/
def Location.IsIn (sources : List Source) (l : Location) : Prop :=
  ∃ s ∈ sources, l.path = s.path ∧ s.HasToken ⟨l.line, l.column⟩

theorem Token.Tiles.line_ne_zero {text : List Char} {i : Nat} {ts : List Token}
    (h : Tiles text i ts) : ∀ t ∈ ts, t.start.line ≠ 0 := by
  have hposition : ∀ i, (Position.ofOffset text i).line ≠ 0 := by
    intro i
    simp only [Position.ofOffset]
    omega
  induction h with
  | token _ _ _ _ _ _ ih => exact List.forall_mem_cons.2 ⟨hposition _, ih⟩
  | endOfInput => exact List.forall_mem_singleton.2 (hposition _)

theorem Source.HasToken.line_ne_zero {s : Source} {p : Position} (h : s.HasToken p) :
    p.line ≠ 0 := by
  obtain ⟨ts, hts, t, ht, rfl⟩ := h
  exact (Token.tiles_of_scan hts).line_ne_zero t ht

namespace Source

theorem parse_eq_ok {s : Source} {d : Document} :
    s.parse = .ok d ↔ ∃ ts, Token.scan s.path s.text = .ok ts ∧
      Document.ofTokens s.path ts = .ok d :=
  bind_eq_ok

theorem parse_eq_error {s : Source} {e : SyntaxError} :
    s.parse = .error e ↔ Token.scan s.path s.text = .error e ∨
      ∃ ts, Token.scan s.path s.text = .ok ts ∧ Document.ofTokens s.path ts = .error e :=
  bind_eq_error

theorem exists_of_mem_errors {sources : List Source} {e : SyntaxError} (h : e ∈ errors sources) :
    ∃ s ∈ sources, s.parse = .error e := by
  obtain ⟨s, hs, h⟩ := List.mem_filterMap.1 h
  refine ⟨s, hs, ?_⟩
  split at h
  · cases h
  · rename_i hparse
    cases h
    exact hparse

theorem exists_of_mem_documents {sources : List Source} {d : Document}
    (h : d ∈ documents sources) : ∃ s ∈ sources, s.parse = .ok d := by
  obtain ⟨s, hs, h⟩ := List.mem_filterMap.1 h
  refine ⟨s, hs, ?_⟩
  cases hparse : s.parse with
  | error e =>
    rw [hparse] at h
    cases h
  | ok d' =>
    rw [hparse] at h
    cases h
    rfl

theorem located_of_parse {P : Location → Prop} {s : Source} {d : Document} (h : s.parse = .ok d)
    (hP : ∀ p, s.HasToken p → ∀ stop, P (.between s.path p stop)) : d.Located P := by
  obtain ⟨ts, hscan, htokens⟩ := parse_eq_ok.1 h
  apply Document.located_of_ofTokens htokens
  exact fun t ht => hP t.start ⟨ts, hscan, t, ht, rfl⟩

theorem located_documents (sources : List Source) :
    ∀ d ∈ documents sources, d.Located (·.IsIn sources) := by
  intro d hd
  obtain ⟨s, hs, hparse⟩ := exists_of_mem_documents hd
  exact located_of_parse hparse fun p hp stop => ⟨s, hs, rfl, hp⟩

end Source

/-! ## Violations -/

/-- Where a violation stands in a file: at a token, or, if it is about a string or an expression
that has no end, where that begins. -/
inductive Source.Shows (s : Source) : Violation → Position → Prop
  | token {v : Violation} {p : Position} : s.HasToken p → s.Shows v p
  | endless {e : SyntaxError} : Token.BreaksOff s.path none .start s.text.toList e →
      s.Shows e.toViolation e.position

/-- The violation has a line and a column and stands there in one of the files, and what is related
to it stands in the files too. -/
structure Violation.IsIn (sources : List Source) (v : Violation) : Prop where
  place : ∃ s ∈ sources, ∃ p, v.path = s.path ∧ v.line = some p.line ∧
    v.column = some p.column ∧ s.Shows v p
  related : ∀ l ∈ v.related, l.IsIn sources

namespace Violation

variable {sources : List Source}

theorem isIn_of_location {v : Violation} {l : Location} (h : l.IsIn sources)
    (hpath : v.path = l.path) (hline : v.line = if l.line = 0 then none else some l.line)
    (hcolumn : v.column = if l.line = 0 then none else some l.column)
    (hrelated : ∀ l ∈ v.related, l.IsIn sources) : v.IsIn sources := by
  obtain ⟨s, hs, hfile, htoken⟩ := h
  have hne : l.line ≠ 0 := htoken.line_ne_zero
  rw [if_neg hne] at hline hcolumn
  exact ⟨⟨s, hs, _, hpath.trans hfile, hline, hcolumn, .token htoken⟩, hrelated⟩

theorem isIn_finding {f : Finding} (h : f.Located (·.IsIn sources)) (rule : RuleId)
    (severity : Severity) : (f.toViolation rule severity).IsIn sources :=
  isIn_of_location h.location rfl rfl rfl h.related

theorem isIn_resolutionError {e : ResolutionError} (h : e.Located (·.IsIn sources)) :
    e.toViolation.IsIn sources :=
  isIn_of_location h.location rfl rfl rfl fun l hl => h.first l (Option.mem_toList.1 hl)

theorem isIn_syntaxError {s : Source} (hs : s ∈ sources) {e : SyntaxError}
    (h : s.parse = .error e) : e.toViolation.IsIn sources := by
  rcases Source.parse_eq_error.1 h with hscan | ⟨ts, hscan, htokens⟩
  · have hbreaks := Token.breaksOff_of_scanFrom hscan
    obtain ⟨slice, _, _, _, _, hpath, hposition, _⟩ := id hbreaks
    have hne : e.position.line ≠ 0 := by
      rw [hposition, Position.after_start]
      exact Nat.add_comm 1 _ ▸ Nat.succ_ne_zero _
    refine ⟨⟨s, hs, e.position, hpath, ?_, ?_, .endless hbreaks⟩, nofun⟩
    · exact if_neg hne
    · exact if_neg hne
  · obtain ⟨body, eof, rfl, heof, _⟩ := (Token.tiles_of_scan hscan).exists_endOfInput
    have hends : Document.Ends (body ++ [eof]) := ⟨eof, by simp, heof⟩
    have hstands := Document.stands_of_ofTokens hends htokens
    have hlocation : (Location.point e.path e.position.line e.position.column).IsIn sources :=
      ⟨s, hs, hstands.path_eq, _, hscan, hstands.position⟩
    exact isIn_of_location hlocation rfl rfl rfl nofun

end Violation

theorem Project.isIn_evaluate [SqlParser] {sources : List Source} {options : RuleOptions}
    {pattern : String → Bool} {r : Registry}
    (hr : ∀ rule ∈ r.rules, rule ∈ Rules.builtIn options pattern) (levels : Levels) (limit : Nat)
    {p : Project} (hp : p.Located (·.IsIn sources)) :
    ∀ v ∈ p.evaluate r levels (Task.outcome limit), v.IsIn sources := by
  intro v hv
  rw [evaluate_eq, (Violation.sort_perm _ _).mem_iff, Rules.flatMap_tasks hr] at hv
  obtain ⟨w, hw, hlevel⟩ := List.mem_filterMap.1 hv
  obtain ⟨rule, hrule, hw⟩ := List.mem_flatMap.1 hw
  obtain ⟨f, hf, rfl⟩ := List.mem_map.1 hw
  have hfinding := Rules.locates_builtIn (hr rule hrule) p hp f hf
  rw [Levels.eq_of_relabel? hlevel]
  exact Violation.isIn_finding hfinding rule.id v.severity

/-! ## Main statement -/

/-- Built-in rules never break off, so that no violation is about a fault. -/
theorem lint_located [Extends.ComponentFinder] [SqlParser] {options : RuleOptions}
    {pattern : String → Bool} {r : Registry}
    (hr : ∀ rule ∈ r.rules, rule ∈ Rules.builtIn options pattern) (levels : Levels) (limit : Nat)
    (sources : List Source) :
    ∀ v ∈ (lint sources r levels (Task.outcome limit)).violations, v.IsIn sources := by
  have hdocuments := Source.located_documents sources
  intro v hv
  rw [(violations_lint_perm r levels (Task.outcome limit) sources).mem_iff] at hv
  rcases List.mem_append.1 hv with hv | hv
  · rcases List.mem_append.1 hv with hv | hv
    · obtain ⟨e, he, rfl⟩ := List.mem_map.1 hv
      obtain ⟨s, hs, hparse⟩ := Source.exists_of_mem_errors he
      exact Violation.isIn_syntaxError hs hparse
    · obtain ⟨e, he, rfl⟩ := List.mem_map.1 hv
      exact Violation.isIn_resolutionError (Project.located_errors hdocuments e he)
  · exact Project.isIn_evaluate hr levels limit (Project.located_build hdocuments) v hv

/-- The error of the broken file is reported at the colon before its SQL. -/
theorem lint_located_brokenFile :
    brokenFileError.toViolation ∈
        (lint [postsFile, brokenFile] .standard [] (Task.outcome 1000)).violations ∧
      brokenFileError.toViolation.IsIn [postsFile, brokenFile] := by
  obtain ⟨pattern, hr⟩ := Registry.exists_pattern_standard
  have herrors : brokenFileError ∈ Source.errors [postsFile, brokenFile] := by
    refine List.mem_filterMap.2 ⟨brokenFile, by simp, ?_⟩
    rw [parse_brokenFile]
  have hreported : brokenFileError.toViolation ∈
      (lint [postsFile, brokenFile] .standard [] (Task.outcome 1000)).violations := by
    rw [(violations_lint_perm .standard [] (Task.outcome 1000) [postsFile, brokenFile]).mem_iff]
    exact List.mem_append_left _ (List.mem_append_left _ (List.mem_map_of_mem herrors))
  exact ⟨hreported, lint_located hr [] 1000 [postsFile, brokenFile] _ hreported⟩

end LookML
