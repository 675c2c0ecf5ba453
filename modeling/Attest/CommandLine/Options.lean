import Attest.Compilation.Input
import Attest.Text.Real

/-!
# Options of the command line

An option is given by its name or by the front of it that no other option shares, and its value
follows as the next word or after an equals sign. The one word that is neither is the address. What
does not fit is refused as a whole.
-/
namespace Attest.CommandLine

/-- An option. -/
inductive Switch where
  | help
  | rpc
  | chainId
  | input
  | version
  | contract
  | language
  | vyperBinary
  | creator
  | timeout
  | verbose
  deriving DecidableEq, Repr

/-- The names of options. -/
def spellings : List (String × Switch) :=
  [("-h", .help), ("--help", .help), ("--rpc", .rpc), ("--chain-id", .chainId),
    ("--input", .input), ("--compiler-version", .version), ("--contract", .contract),
    ("--language", .language), ("--vyper-binary", .vyperBinary), ("--creator-tx", .creator),
    ("--rpc-timeout", .timeout), ("-v", .verbose), ("--verbose", .verbose)]

/-- A word of the command line. -/
inductive Word where
  /-- A value. -/
  | value (text : String)
  /-- An option, whether it is a letter that others may follow at once, and what is attached. -/
  | switch (switch : Switch) (letter : Bool) (attached : Option String)
  /-- What looks like an option and is none, or more than one. -/
  | unknown
  /-- The mark behind which all words are values. -/
  | divider

/-- A text up to its first equals sign and the text behind that. -/
def atEquals (text : List Char) : Option (List Char × List Char) :=
  match text.dropWhile (· != '=') with
  | _ :: rest => some (text.takeWhile (· != '='), rest)
  | [] => none

/-- The option of a full name. -/
def named? (text : List Char) : Option Switch :=
  (spellings.find? fun row => row.1.toList == text).map Prod.snd

/-- The options whose names begin with a text. -/
def begunBy (text : List Char) : List Switch :=
  (spellings.filter fun row => text.isPrefixOf row.1.toList).map Prod.snd

/-- Whether a text is a number below zero, as a value may be. -/
def isNegativeNumber : List Char → Bool
  | '-' :: digits =>
    let rest := digits.dropWhile Text.isDecimal
    (rest.isEmpty && !digits.isEmpty) ||
      match rest with
      | '.' :: fraction => !fraction.isEmpty && fraction.all Text.isDecimal
      | _ => false
  | _ => false

/-- The kind of a text that begins with one dash and is no full name. -/
def shortWord (text : List Char) : Word :=
  match named? (text.take 2) with
  | some switch => .switch switch true (some (String.ofList (text.drop 2)))
  | none =>
    if isNegativeNumber text || text.contains ' ' then .value (String.ofList text) else .unknown

/-- The kind of a text that begins with two dashes and is no full name. -/
def longWord (text : List Char) : Word :=
  let (front, attached) := match atEquals text with
    | some (front, rest) => (front, some (String.ofList rest))
    | none => (text, none)
  match begunBy front with
  | [switch] => .switch switch false attached
  | [] => if text.contains ' ' then .value (String.ofList text) else .unknown
  | _ => .unknown

/-- The kind of a text. -/
def wordOf (text : String) : Word :=
  match text.toList with
  | '-' :: second :: rest =>
    let chars := '-' :: second :: rest
    match named? chars with
    | some switch => .switch switch false none
    | none =>
      match (atEquals chars).bind fun (front, rest) => (named? front).map (·, rest) with
      | some (switch, rest) => .switch switch false (some (String.ofList rest))
      | none => if second == '-' then longWord chars else shortWord chars
  | _ => .value text

/-- The kinds of texts; behind the divider all are values. -/
def words : List String → List Word
  | [] => []
  | text :: rest =>
    if text = "--" then .divider :: rest.map .value else wordOf text :: words rest

/-- The contract that a text names by its path and name with a colon between them. -/
def targetOf? (text : String) : Option Target :=
  let behind := (text.toList.reverse.takeWhile (· != ':')).reverse
  let path := text.toList.take (text.toList.length - behind.length - 1)
  if text.toList.contains ':' && !path.isEmpty && !behind.isEmpty then
    some ⟨String.ofList path, String.ofList behind⟩
  else none

/-- The words by which a text that names no contract is refused. -/
def targetRefusal (text : String) : String := "Expected path:Name, got " ++ text

/-- What the command line asks for, as far as it has been read. -/
structure Options where
  /-- The address. -/
  address : Option String := none
  /-- The addresses of providers. -/
  rpcs : List String := []
  /-- The number of the chain. -/
  chainId : Option Int := none
  /-- The path of the document of sources and settings. -/
  input : Option String := none
  /-- The version of the compiler. -/
  version : Option String := none
  /-- The contract among the sources. -/
  target : Option Target := none
  /-- The language. -/
  language : Language := .solidity
  /-- The path of the Vyper compiler. -/
  vyperBinary : Option String := none
  /-- The hash of the transaction that created the contract. -/
  creator : Option String := none
  /-- The seconds that a request may take. -/
  timeout : Option Double := none
  /-- Whether more is to be told. -/
  verbose : Bool := false

/-- The language of a name on the command line. -/
def languageOf? (text : String) : Option Language :=
  if text = "solidity" then some .solidity else if text = "vyper" then some .vyper else none

/-- Options with the value of one read. -/
def Options.read (options : Options) (switch : Switch) (value : String) : Option Options :=
  match switch with
  | .rpc => some { options with rpcs := options.rpcs ++ [value] }
  | .chainId =>
    (Numeral.readDecimal? value.toList).map fun id => { options with chainId := some id }
  | .input => some { options with input := some value }
  | .version => some { options with version := some value }
  | .contract => (targetOf? value).map fun target => { options with target := some target }
  | .language => (languageOf? value).map fun language => { options with language }
  | .vyperBinary => some { options with vyperBinary := some value }
  | .creator => some { options with creator := some value }
  | .timeout =>
    (Numeral.readReal? value.toList).map fun limit => { options with timeout := some limit }
  | _ => none

/-- Whether an option has no value. -/
def Switch.isFlag (switch : Switch) : Bool := switch == .help || switch == .verbose

/-- Whether letters behind the letter of an option without a value are such options too. -/
def areFlags (attached : Option String) (letter : Bool) : Bool :=
  match attached with
  | none => true
  | some letters => letter && !letters.isEmpty && letters.toList.all fun c => c == 'v' || c == 'h'

/-- Options with those of words read. -/
def readWords (options : Options) : List Word → Option Options
  | [] => some options
  | .unknown :: _ => none
  | .value text :: .divider :: rest =>
    if options.address.isNone then readWords { options with address := some text } rest else none
  | .value text :: rest =>
    if options.address.isNone then readWords { options with address := some text } rest else none
  | .divider :: rest =>
    if options.address.isNone then readWords options rest else none
  | .switch switch letter attached :: rest =>
    if switch.isFlag then
      if areFlags attached letter then readWords { options with verbose := true } rest else none
    else
      match attached, rest with
      | some value, rest => (options.read switch value).bind fun options => readWords options rest
      | none, .value value :: rest =>
        (options.read switch value).bind fun options => readWords options rest
      | none, _ => none

/-- What has to be given on the command line. -/
structure Request where
  /-- The address. -/
  address : String
  /-- The number of the chain. -/
  chainId : Int
  /-- The path of the document of sources and settings. -/
  input : String
  /-- The version of the compiler. -/
  version : String
  /-- The contract among the sources. -/
  target : Target
  /-- All options. -/
  options : Options

/-- What a command line asks for, if it is complete. -/
def parse (arguments : List String) : Option Request := do
  let options ← readWords {} (words arguments)
  guard !options.rpcs.isEmpty
  return {
    address := ← options.address
    chainId := ← options.chainId
    input := ← options.input
    version := ← options.version
    target := ← options.target
    options }

end Attest.CommandLine
