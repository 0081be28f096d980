import Mathlib.Data.List.Infix
import WazuhOperator.Library.Patterns
import WazuhOperator.Rules.Resources

namespace WazuhOperator
namespace Rules

open Patterns

/-!
# The validator of rules

A rule is checked for its syntax, for the range of its identifiers, for its
name, and for identifiers which another rule has.  Only the first check uses
an XML parser; the identifiers are found with a regular expression.  All
checks are made, and the rule is valid if none has something to report.

The parser is a parameter: what it answers about a text read as a `group`
element, and about a text wrapped in a `root` element.
-/

/-- `xml.Unmarshal` into the two types the validator asks for. -/
structure XMLParser where
  (group root : String -> Except String Unit)

/-! ## Identifiers -/

/-- The class of white space of regular expressions. -/
def isPatternSpace (char : Char) : Bool :=
  char = '\t' || char = '\n' || char = '\x0c' || char = '\r' || char = ' '

def isDigit (char : Char) : Bool := '0' ≤ char && char ≤ '9'

def isQuote (char : Char) : Bool := char = '"' || char = '\''

/-- The regular expression for the identifiers: `<rule`, characters other than `>`, `id`, an
equals sign between white space, and a number in quotes. -/
def ruleIDRegex : List Item :=
  literal "<rule" ++ some1 (fun char => char ≠ '>') ++ literal "id" ++ [.many isPatternSpace] ++
    literal "=" ++ [.many isPatternSpace, .one isQuote, .captured isDigit, .one isQuote]

/-- `strconv.Atoi` of a text of digits, which fails outside of 64 bits. -/
def atoi (digits : String) : Option Nat :=
  let value := digits.toList.foldl (fun number digit => 10 * number + (digit.toNat - '0'.toNat)) 0
  if value < 2 ^ 63 then some value else none

def extractRuleIDs (content : String) : List Nat := (findAll ruleIDRegex content).filterMap atoi

example : extractRuleIDs "<group><rule id='100001' level='5'/><rule level=\"3\" id = \"100002\"/></group>" =
    [100001, 100002] := by decide +kernel

/-! ## The checks -/

def isSpace (char : Char) : Bool :=
  (9 ≤ char.toNat && char.toNat ≤ 13) || char.toNat = 32 || char.toNat = 0x85 || char.toNat = 0xA0 ||
    char.toNat = 0x1680 || (0x2000 ≤ char.toNat && char.toNat ≤ 0x200a) || char.toNat = 0x2028 ||
    char.toNat = 0x2029 || char.toNat = 0x202f || char.toNat = 0x205f || char.toNat = 0x3000

def trimSpace (text : List Char) : List Char :=
  ((text.dropWhile isSpace).reverse.dropWhile isSpace).reverse

def validateXMLSyntax (parser : XMLParser) (content : String) : Except String Unit :=
  if content = "" then .error "rule content cannot be empty"
  else if ¬ "<".toList <+: trimSpace content.toList then
    .error "content does not appear to be XML (must start with '<')"
  else
    let parsed : Except String Unit :=
      match parser.group content with
      | .ok () => .ok ()
      | .error text =>
        match parser.root ("<root>" ++ content ++ "</root>") with
        | .ok () => .ok ()
        | .error _ => .error ("failed to parse XML: " ++ text)
    match parsed with
    | .error text => .error text
    | .ok () =>
      if "<rule".toList <:+: content.toList ∨ "<group".toList <:+: content.toList then .ok ()
      else .error "content must contain at least one <rule> or <group> element"

def ruleIDError (digits : String) : Option String :=
  match atoi digits with
  | none => some ("invalid rule ID format: " ++ digits)
  | some id =>
    if id < 100000 ∨ 999999 < id then
      some ("rule ID " ++ toString id ++ " is outside custom range (100000-999999)")
    else none

def validateRuleIDs (content : String) (specRuleID : Int) : List String :=
  (findAll ruleIDRegex content).filterMap ruleIDError ++
    if specRuleID ≠ 0 ∧ (specRuleID < 100000 ∨ 999999 < specRuleID) then
      ["spec.ruleID " ++ toString specRuleID ++ " is outside custom range (100000-999999)"]
    else []

def isNameChar (char : Char) : Bool :=
  ('a' ≤ char && char ≤ 'z') || ('A' ≤ char && char ≤ 'Z') || isDigit char || char = '_' || char = '-'

def validateRuleName (name : String) : Except String Unit :=
  if name = "" then .error "rule name cannot be empty"
  else if ¬ name.toList.all isNameChar then
    .error ("rule name '" ++ name ++
      "' contains invalid characters (only alphanumeric, underscores, and hyphens allowed)")
  else if 64 < name.utf8ByteSize then
    .error ("rule name '" ++ name ++ "' is too long (max 64 characters)")
  else .ok ()

/-- The rules which the check for duplicates compares a rule with: those listed in its
namespace, without rules of its own name and rules whose references have another name. -/
def compared (items : List Resource) (rule : Resource) : List Resource :=
  ((items.filter (fun other => other.nspace = rule.nspace)).filter
    (fun other => other.name ≠ rule.name)).filter
    (fun other => other.spec.clusterRef.name = rule.spec.clusterRef.name)

/-- `checkDuplicateRuleIDs`, given what the API answers to the listing.  Where it fails the check
is left out. -/
def checkDuplicateRuleIDs (listing : Except String Unit) (items : List Resource) (rule : Resource) :
    List String :=
  match listing with
  | .error _ => []
  | .ok () =>
    (compared items rule).flatMap fun other =>
      (extractRuleIDs rule.spec.content).flatMap fun current =>
        (extractRuleIDs other.spec.content).filterMap fun existing =>
          if current = existing then
            some ("rule ID " ++ toString current ++ " already exists in WazuhRule '" ++ other.name ++ "'")
          else none

def reported (wrap : String -> String) : Except String Unit -> List String
  | .ok () => []
  | .error text => [wrap text]

/-- `Validate`: the errors, none for a valid rule. -/
def validate (parser : XMLParser) (listing : Except String Unit) (items : List Resource)
    (rule : Resource) : List String :=
  reported ("invalid XML syntax: " ++ ·) (validateXMLSyntax parser rule.spec.content) ++
    validateRuleIDs rule.spec.content rule.spec.ruleID ++
    reported id (validateRuleName rule.spec.title) ++
    checkDuplicateRuleIDs listing items rule

/-! ## What the check for duplicates rules out -/

theorem validate_apart (valid : validate parser (.ok ()) items rule = []) (listed : other ∈ items)
    (near : other.nspace = rule.nspace) (apart : other.name ≠ rule.name)
    (naming : other.spec.clusterRef.name = rule.spec.clusterRef.name) :
    ∀ id ∈ extractRuleIDs rule.spec.content, id ∉ extractRuleIDs other.spec.content := by
  have silent := (List.append_eq_nil_iff.mp valid).2
  simp only [checkDuplicateRuleIDs, List.flatMap_eq_nil_iff, List.filterMap_eq_nil_iff] at silent
  intro id inRule inOther
  simpa using silent other (by simp [compared, listed, near, apart, naming]) id inRule id inOther

end Rules
end WazuhOperator
