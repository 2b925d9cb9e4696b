import LookML.Lint
import LookML.Proofs.Document.Completeness
import LookML.Proofs.Evaluation.Separation
/-!
# Linting files that have nothing to do with one another

Files that use no name in common may be linted apart: the report on all of them is the reports on
both groups put together in canonical order. A file that does not parse has no names, and all that
it does is to add its syntax error.
-/

namespace LookML

/-- The names of views and explores, or of their aliases, that the top-level blocks of a document
define, refine or use. -/
def Document.names (d : Document) : List String :=
  d.blocks.flatMap Block.names

/-- The names of the document that the file holds; none if it does not parse. -/
def Source.names (s : Source) : List String :=
  s.parse.toOption.elim [] Document.names

namespace Source

variable {sources before after : List Source} {s : Source} {e : SyntaxError}

theorem mem_names_of_block {b : Block} (hb : b ∈ (documents sources).flatMap Document.blocks)
    {name : String} (hname : name ∈ b.names) : name ∈ sources.flatMap names := by
  obtain ⟨d, hd, hbd⟩ := List.mem_flatMap.1 hb
  obtain ⟨s, hs, hparse⟩ := List.mem_filterMap.1 hd
  refine List.mem_flatMap.2 ⟨s, hs, ?_⟩
  rw [names, hparse]
  exact List.mem_flatMap.2 ⟨b, hbd, hname⟩

theorem documents_of_error (h : s.parse = .error e) :
    documents (before ++ s :: after) = documents (before ++ after) := by
  simp [documents, h, Except.toOption]

theorem errors_of_error (h : s.parse = .error e) :
    (errors (before ++ s :: after)).Perm (e :: errors (before ++ after)) := by
  simp only [errors, List.filterMap_append, List.filterMap_cons, h]
  exact List.perm_middle

end Source

/-! ## The report of a run -/

section Report

variable [Extends.ComponentFinder] (r : Registry) (levels : Levels)
  (outcome : {p : Project} → Task p → Outcome)

theorem violations_lint_perm (sources : List Source) :
    (lint sources r levels outcome).violations.Perm
      ((Source.errors sources).map SyntaxError.toViolation ++
        (Project.build (Source.documents sources)).2.map ResolutionError.toViolation ++
        (Project.build (Source.documents sources)).1.evaluate r levels outcome) :=
  Violation.sort_perm _ _

/-- A file that does not parse adds its error to the report and changes nothing else. -/
theorem lint_of_error {before after : List Source} {s : Source} {e : SyntaxError}
    (h : s.parse = .error e) :
    lint (before ++ s :: after) r levels outcome =
      { lint (before ++ after) r levels outcome with
        violations := Violation.sort ((before ++ s :: after).map Source.path)
          (e.toViolation :: (lint (before ++ after) r levels outcome).violations) } := by
  have hdocuments : Source.documents (before ++ s :: after) =
      Source.documents (before ++ after) := Source.documents_of_error h
  have herrors : ((Source.errors (before ++ s :: after)).map SyntaxError.toViolation).Perm
      (e.toViolation :: (Source.errors (before ++ after)).map SyntaxError.toViolation) :=
    (Source.errors_of_error h).map SyntaxError.toViolation
  have hviolations : (lint (before ++ s :: after) r levels outcome).violations =
      Violation.sort ((before ++ s :: after).map Source.path)
        (e.toViolation :: (lint (before ++ after) r levels outcome).violations) := by
    apply Violation.sort_eq_of_perm
    rw [hdocuments]
    apply ((herrors.append_right _).append_right _).trans
    exact (violations_lint_perm r levels outcome (before ++ after)).symm.cons e.toViolation
  rw [← hviolations]
  unfold lint
  rw [hdocuments]

end Report

/-! ## Main statement -/

/-- Two groups of files without a common name are linted independently, and a file that does not
parse adds its error to the report and changes nothing else. No fault comes in between, as built-in
rules report at once. -/
theorem lint_independent [Extends.ComponentFinder] [SqlParser] {options : RuleOptions}
    {pattern : String → Bool} {r : Registry}
    (hr : ∀ rule ∈ r.rules, rule ∈ Rules.builtIn options pattern) (levels : Levels) (limit : Nat)
    {sources first second : List Source} (h : Split sources first second)
    (hnames : (first.flatMap Source.names).Disjoint (second.flatMap Source.names)) :
    (lint sources r levels (Task.outcome limit)).violations =
      Violation.sort (sources.map Source.path)
        ((lint first r levels (Task.outcome limit)).violations ++
          (lint second r levels (Task.outcome limit)).violations) ∧
    ∀ (before after : List Source) (s : Source) (e : SyntaxError),
      sources = before ++ s :: after → s.parse = .error e →
      lint sources r levels (Task.outcome limit) =
        { lint (before ++ after) r levels (Task.outcome limit) with
          violations := Violation.sort (sources.map Source.path)
            (e.toViolation ::
              (lint (before ++ after) r levels (Task.outcome limit)).violations) } := by
  constructor
  · have hdocuments : Split (Source.documents sources) (Source.documents first)
        (Source.documents second) := h.filterMap _
    -- What tells the parts apart is whether a name is one of the first group's.
    have hfirst : ∀ b ∈ (Source.documents first).flatMap Document.blocks,
        ∀ name ∈ b.names, name ∈ first.flatMap Source.names :=
      fun b hb name hname => Source.mem_names_of_block hb hname
    have hsecond : ∀ b ∈ (Source.documents second).flatMap Document.blocks,
        ∀ name ∈ b.names, name ∉ first.flatMap Source.names :=
      fun b hb name hname hmine => hnames hmine (Source.mem_names_of_block hb hname)
    have hsyntax : ((Source.errors sources).map SyntaxError.toViolation).Perm
        ((Source.errors first).map SyntaxError.toViolation ++
          (Source.errors second).map SyntaxError.toViolation) :=
      ((h.filterMap _).map SyntaxError.toViolation).perm
    have hproblems := (Project.errors_perm_append hdocuments hfirst hsecond).map
      ResolutionError.toViolation
    rw [List.map_append] at hproblems
    have hsplits := Project.splits_build hdocuments hfirst hsecond
    have hfindings := Project.evaluate_perm_append hsplits hr levels limit
    have hreports := append_perm_append (append_perm_append hsyntax hproblems) hfindings
    have hapart := (violations_lint_perm r levels (Task.outcome limit) first).append
      (violations_lint_perm r levels (Task.outcome limit) second)
    exact Violation.sort_eq_of_perm _ (hreports.trans hapart.symm)
  · rintro before after s e rfl hparse
    exact lint_of_error r levels (Task.outcome limit) hparse

theorem Registry.exists_pattern_standard [SqlParser] [PatternCompiler] :
    ∃ pattern, ∀ rule ∈ standard.rules, rule ∈ Rules.builtIn .standard pattern := by
  unfold standard withOptions
  split
  · rename_i pattern _
    exact ⟨pattern, fun _ h => h⟩
  · exact ⟨fun _ => false, by simp [Except.toOption, empty]⟩

def postsFile : Source := ⟨"posts.view.lkml", "view: posts {}"⟩

def brokenFile : Source := ⟨"broken.view.lkml", "view: broken { sql_table_name: t }"⟩

def brokenFileError : SyntaxError :=
  ⟨"broken.view.lkml", ⟨1, 30⟩, .unterminatedExpression "sql_table_name"⟩

def usersFile : Source := ⟨"users.view.lkml", "view: users {}"⟩

open Grammar in
def emptyView (name : String) : List Grammar.Item :=
  let span (start stop : Nat) : Span := ⟨⟨1, start⟩, ⟨1, stop⟩⟩
  [.named "view" (span 1 5) (span 5 6) (.word name (span 7 12)) (.mk (span 13 14) [] (span 14 15))]

theorem names_of_emptyView {s : Source} (name : String)
    (hscan : Token.scan s.path s.text =
      .ok (Grammar.itemTokens (emptyView name) ++ [⟨.endOfInput, ⟨1, 15⟩, ⟨1, 15⟩⟩])) :
    s.names = (Grammar.document s.path (emptyView name)).names := by
  have hparse : s.parse = .ok (Grammar.document s.path (emptyView name)) :=
    Document.parse_of_scan hscan rfl (Nat.le_of_ble_eq_true rfl)
  rw [Source.names, hparse]
  rfl

theorem parse_brokenFile : brokenFile.parse = .error brokenFileError := by
  have hscan : Token.scan brokenFile.path brokenFile.text = .error brokenFileError := by
    decide +kernel
  rw [Source.parse, Document.parse, hscan]
  rfl

/-- The broken file stands between the two views that are linted apart. -/
theorem lint_independent_brokenFile :
    (lint [postsFile, brokenFile, usersFile] .standard [] (Task.outcome 1000)).violations =
        Violation.sort ["posts.view.lkml", "broken.view.lkml", "users.view.lkml"]
          ((lint [postsFile] .standard [] (Task.outcome 1000)).violations ++
            (lint [brokenFile, usersFile] .standard [] (Task.outcome 1000)).violations) ∧
      lint [postsFile, brokenFile, usersFile] .standard [] (Task.outcome 1000) =
        { lint [postsFile, usersFile] .standard [] (Task.outcome 1000) with
          violations := Violation.sort ["posts.view.lkml", "broken.view.lkml", "users.view.lkml"]
            (brokenFileError.toViolation ::
              (lint [postsFile, usersFile] .standard [] (Task.outcome 1000)).violations) } := by
  obtain ⟨pattern, hr⟩ := Registry.exists_pattern_standard
  have hsplit : Split [postsFile, brokenFile, usersFile] [postsFile] [brokenFile, usersFile] :=
    .first _ (.second _ (.second _ .nil))
  have hposts : postsFile.names = ["posts"] :=
    (names_of_emptyView "posts" (by decide +kernel)).trans (by decide +kernel)
  have husers : usersFile.names = ["users"] :=
    (names_of_emptyView "users" (by decide +kernel)).trans (by decide +kernel)
  have hbroken : brokenFile.names = [] := by
    rw [Source.names, parse_brokenFile]
    rfl
  have hnames : ([postsFile].flatMap Source.names).Disjoint
      ([brokenFile, usersFile].flatMap Source.names) := by
    simp [hposts, hbroken, husers]
  obtain ⟨hviolations, herror⟩ := lint_independent hr [] 1000 hsplit hnames
  exact ⟨hviolations, herror [postsFile] [usersFile] brokenFile _ rfl parse_brokenFile⟩

end LookML
