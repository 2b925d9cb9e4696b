import LookML.Rule
import LookML.Text.Case
import LookML.Text.Search
/-!
# Naming rules

How fields and files are named, and what their names and texts avoid.
-/

namespace LookML.Rules

open Text

/-- A yes-no dimension whose name begins with none of the given texts. -/
def yesnoNameFindings (starts : List String) (f : Member) : List Finding :=
  let choices := ", ".intercalate starts
  if f.kind = .dimension && f.block.fieldType? = some "yesno" &&
      !starts.any (startsWith f.name) then
    [.ofField f s!"yesno dimension '{f.name}' should start with one of: {choices}"]
  else []

/-- Yes-no dimensions read as questions. -/
def yesnoName (starts : List String) : Rule :=
  .ofField ⟨"yesno_name", by decide⟩ .warning
    "yesno dimensions start with a configured prefix such as is_ or has_"
    fun _ f => yesnoNameFindings starts f

def isCountName (name : String) : Bool :=
  name = "count" || startsWith name "count_" || endsWith name "_count"

def countNameFindings (f : Member) : List Finding :=
  if f.kind = .measure && f.block.fieldType? ∈ [some "count", some "count_distinct"] &&
      !isCountName f.name then
    [.ofField f s!"count measure '{f.name}' should be named count_* or *_count"]
  else []

def countName : Rule :=
  .ofField ⟨"count_name", by decide⟩ .warning
    "count and count_distinct measures are named count, count_* or *_count"
    fun _ f => countNameFindings f

/-- Whether a name has letters in upper case and none in lower case. -/
def isAllCaps (name : String) : Bool :=
  name.toList.any isUpper && !name.toList.any isLower

/-- A field named in upper case. -/
def allCapsFindings (f : Member) : List Finding :=
  if isAllCaps f.name then [.ofField f s!"{f.kind.keyword} name '{f.name}' is all caps"] else []

/-- Names are not written in upper case. -/
def allCaps : Rule :=
  .ofField ⟨"all_caps", by decide⟩ .warning "Field names are not written in upper case"
    fun _ f => allCapsFindings f

/-- A field whose name the pattern, written as `spelling`, does not match. -/
def fieldNamingFindings (pattern : String → Bool) (spelling : String) (f : Member) :
    List Finding :=
  if pattern f.name then []
  else [.ofField f s!"{f.kind.keyword} name '{f.name}' does not match pattern {spelling}"]

def fieldNaming (pattern : String → Bool) (spelling : String) : Rule :=
  .ofField ⟨"field_naming", by decide⟩ .warning "Field names match the configured naming pattern"
    fun _ f => fieldNamingFindings pattern spelling f

def readTexts (f : Member) : List (String × String) :=
  ("name", f.name) :: ["label", "description"].filterMap fun key =>
    (f.block.text? key).map fun text => (key, text)

/-- Every forbidden phrase in every text of a field, upper and lower case taken as the same. -/
def lexiconFindings (forbidden : List String) (f : Member) : List Finding :=
  (readTexts f).flatMap fun (what, text) =>
    (forbidden.filter fun phrase =>
        phrase ≠ "" && contains (lowerCase phrase.toList) (lowerCase text.toList)).map
      fun phrase => .ofField f s!"{what} of '{f.name}' contains '{phrase}'"

def lexicon (forbidden : List String) : Rule :=
  .ofField ⟨"lexicon", by decide⟩ .warning
    "Field names, labels and descriptions avoid forbidden phrases"
    fun _ f => lexiconFindings forbidden f

def isRefinement (view : Block) : Bool :=
  startsWith view.nameOrEmpty "+"

def definedViews (d : Document) : List Block :=
  d.views.filter (!isRefinement ·)

/-- A view file none of whose views has its name, reported at its first view. -/
def filenameFindings (d : Document) : List Finding :=
  match definedViews d with
  | first :: others =>
    if d.isViewFile && (first :: others).all fun v => v.nameOrEmpty ≠ d.stem then
      [.ofView first
        s!"file {d.fileName} defines view '{first.nameOrEmpty}', expected view '{d.stem}'"]
    else []
  | [] => []

def filenameViewnameMatch : Rule :=
  .ofFile ⟨"filename_viewname_match", by decide⟩ .warning
    "A file named x.view.lkml defines view x" filenameFindings

end LookML.Rules
