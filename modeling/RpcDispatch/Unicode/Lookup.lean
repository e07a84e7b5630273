import RpcDispatch.Unicode.Categories
import RpcDispatch.Unicode.Properties
import RpcDispatch.Unicode.Scripts

/-!
# Sets of characters by property

Properties are looked up by name: binary properties, general categories with their groups, and
scripts. Case, blanks, `_`, `-` and a leading `is` do not matter in a name.
-/

namespace RpcDispatch.Unicode

/-- Runs of code points, or all but those. -/
structure PropertySet where
  complement : Bool
  runs : List CodeRun
deriving DecidableEq, Repr

namespace PropertySet

def of (runs : List CodeRun) : PropertySet := ⟨false, runs⟩

def contains (s : PropertySet) (c : Char) : Bool := s.complement != s.runs.any (·.contains c)

end PropertySet

def find? (table : List (String × List String)) (name : Text) : Option (List CodeRun) :=
  (table.find? fun e => (Text.splitOn ' ' e.1.toList).contains name).map
    fun e => CodeRun.ofTable e.2

def categories (names : List String) : List CodeRun :=
  names.flatMap fun n => (find? categoryTable n.toList).getD []

def letters : List String := ["Lu", "Ll", "Lt", "Lm", "Lo"]

def marks : List String := ["Mn", "Mc", "Me"]

def numbers : List String := ["Nd", "Nl", "No"]

def punctuation : List String := ["Pc", "Pd", "Ps", "Pe", "Pi", "Pf", "Po"]

def symbols : List String := ["Sm", "Sc", "Sk", "So"]

def separators : List String := ["Zs", "Zl", "Zp"]

/-- Assigned code points outside the groups above. -/
def others : List String := ["Cc", "Cf", "Co"]

/-- Names of categories and their groups, with the short names of their members. -/
def categoryNames : List (List String × List String) := [
  (["l", "letter"], letters),
  (["lc", "casedletter"], ["Lu", "Ll", "Lt"]),
  (["lu", "uppercaseletter"], ["Lu"]),
  (["ll", "lowercaseletter"], ["Ll"]),
  (["lt", "titlecaseletter"], ["Lt"]),
  (["lm", "modifierletter"], ["Lm"]),
  (["lo", "otherletter"], ["Lo"]),
  (["m", "mark", "combiningmark"], marks),
  (["mn", "nonspacingmark"], ["Mn"]),
  (["mc", "spacingmark"], ["Mc"]),
  (["me", "enclosingmark"], ["Me"]),
  (["n", "number"], numbers),
  (["nd", "decimalnumber", "digit"], ["Nd"]),
  (["nl", "letternumber"], ["Nl"]),
  (["no", "othernumber"], ["No"]),
  (["p", "punctuation", "punct"], punctuation),
  (["pc", "connectorpunctuation"], ["Pc"]),
  (["pd", "dashpunctuation"], ["Pd"]),
  (["ps", "openpunctuation"], ["Ps"]),
  (["pe", "closepunctuation"], ["Pe"]),
  (["pi", "initialpunctuation"], ["Pi"]),
  (["pf", "finalpunctuation"], ["Pf"]),
  (["po", "otherpunctuation"], ["Po"]),
  (["s", "symbol"], symbols),
  (["sm", "mathsymbol"], ["Sm"]),
  (["sc", "currencysymbol"], ["Sc"]),
  (["sk", "modifiersymbol"], ["Sk"]),
  (["so", "othersymbol"], ["So"]),
  (["z", "separator"], separators),
  (["zs", "spaceseparator"], ["Zs"]),
  (["zl", "lineseparator"], ["Zl"]),
  (["zp", "paragraphseparator"], ["Zp"]),
  (["cc", "control", "cntrl"], ["Cc"]),
  (["cf", "format"], ["Cf"]),
  (["co", "privateuse"], ["Co"])]

def all : List CodeRun := [⟨0, 0x10FFFF, 1⟩]

def category? (name : Text) : Option PropertySet :=
  let grouped := letters ++ marks ++ numbers ++ punctuation ++ symbols ++ separators
  if name = "any" then some (.of all)
  else if name = "ascii" then some (.of [⟨0, 0x7F, 1⟩])
  else if name = "assigned" then some (.of (categories (grouped ++ others)))
  else if name = "cn" ∨ name = "unassigned" then some ⟨true, categories (grouped ++ others)⟩
  else if name = "c" ∨ name = "other" then some ⟨true, categories grouped⟩
  else (categoryNames.find? fun e => (e.1.map String.toList).contains name).map
    fun e => .of (categories e.2)

def script? (name : Text) : Option PropertySet := (find? scriptTable name).map .of

def scriptExtension? (name : Text) : Option PropertySet :=
  (scriptTable.find? fun e => (Text.splitOn ' ' e.1.toList).contains name).map fun e =>
    let names := Text.splitOn ' ' e.1.toList
    let added := (names.findSome? (find? extensionTable)).getD []
    let shared := (names.findSome? (find? sharedTable)).getD []
    if shared = [] then .of (CodeRun.ofTable e.2 ++ added)
    else .of (without (CodeRun.ofTable e.2) shared)
where
  /-- Every code point of some runs that is in none of some others. -/
  without (runs others : List CodeRun) : List CodeRun :=
    runs.flatMap fun r =>
      ((List.range' r.first (r.last - r.first + 1)).filter fun n =>
        (n - r.first) % r.step = 0 &&
          !others.any fun o => o.first ≤ n && n ≤ o.last && (n - o.first) % o.step == 0).map
        fun n => ⟨n, n, 1⟩

def binary? (name : Text) : Option PropertySet := (find? propertyTable name).map .of

/-- The form in which names are compared. -/
def plainName (name : Text) : Text :=
  let (stripped, body) := match name with
    | a :: b :: t => if a.toLower = 'i' ∧ b.toLower = 's' then (true, t) else (false, name)
    | _ => (false, name)
  let plain := (body.filter fun c =>
    c != ' ' && c != '_' && c != '-' && c.toNat < 0x80).map Char.toLower
  if stripped ∧ plain = ['c'] then "isc" else plain

/-- The set behind a single name. Where a name is short for a category and for a property of
another kind, the category is meant. -/
def property? (name : Text) : Option PropertySet :=
  let n := plainName name
  if n = "cf" ∨ n = "sc" ∨ n = "lc" then category? n
  else (binary? n).or ((category? n).or (script? n))

def propertyValue? (name value : Text) : Option PropertySet :=
  let n := plainName name
  let v := plainName value
  if n = "gc" ∨ n = "generalcategory" then category? v
  else if n = "sc" ∨ n = "script" then script? v
  else if n = "scx" ∨ n = "scriptextensions" then scriptExtension? v
  else none

def alphabetic : List CodeRun := (find? propertyTable "alphabetic").getD []

def digits : List CodeRun := categories ["Nd"]

/-- Letters, marks, digits, connectors and joiners. -/
def wordRuns : List CodeRun :=
  alphabetic ++ categories (marks ++ ["Nd", "Pc"]) ++
    (find? propertyTable "joincontrol").getD []

def isWordChar (c : Char) : Bool := wordRuns.any (·.contains c)

def isAlphabetic (c : Char) : Bool := alphabetic.any (·.contains c)

def isAlphanumeric (c : Char) : Bool :=
  isAlphabetic c || (categories numbers).any (·.contains c)

end RpcDispatch.Unicode
