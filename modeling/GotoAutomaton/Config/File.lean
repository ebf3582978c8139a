import GotoAutomaton.Log
import GotoAutomaton.Table.Basic
import GotoAutomaton.Text.Quoted
import GotoAutomaton.Toml.Read
import GotoAutomaton.Toml.Text

/-!
# The configuration

The configuration has two sections, the settings of tables and the settings of the log.  It is read
from a TOML document.  What the document leaves out has its default and keys without a meaning are
passed over, but every value has to be one that a reader could take.

A section is a table, or an array that gives the fields in their order; a date or a time is taken
as a section without fields.  Each field that is left out has a default of its own, and so has each
section.  A configuration file is read as a whole before anything is logged or decoded.

An outline chooses which fields a document has and in which order sections and fields stand.  It is
written as a document, given how text is put in quotes, and it says which configuration the document
stands for: the given fields, completed by the defaults.
-/

namespace GotoAutomaton

/-- The settings of the log. -/
structure LoggingConfig where
  /-- The directives that say which lines are wanted; a level alone is one. -/
  level : String
  deriving DecidableEq

namespace LoggingConfig

def defaultLevel : String :=
  "info"

/-- Information and what is more urgent is logged. -/
def default : LoggingConfig :=
  ⟨defaultLevel⟩

def check (c : LoggingConfig) : Except Error Unit :=
  match Directive.checkAll c.level with
  | .ok _ => .ok ()
  | .error fault =>
      .error (.config ("Invalid log level " ++ Quoted.render c.level ++ ": " ++ fault.text))

/-- Starts the log, which can be done once.  Directives of the environment count instead of the
configured ones if there are any and they are good. -/
def start (c : LoggingConfig) (environment : Option String) (started : Bool) :
    Except Error Unit := do
  match environment.map Directive.checkAll with
  | some (.ok _) => pure ()
  | _ => c.check
  if started then .error (.other "a global default trace dispatcher has already been set")
  else .ok ()

end LoggingConfig

/-- The configuration of the program. -/
structure Config where
  table : TableConfig
  logging : LoggingConfig
  deriving DecidableEq

namespace Config

/-- Every field has its default. -/
def default : Config :=
  ⟨.default, .default⟩

end Config

namespace Toml

mutual

/-- Whether a value could be taken by some reader: its integers and its floating-point numbers are
not too large. -/
def Value.fits : Value → Bool
  | .int n => integerFits n
  | .intLike => false
  | .float magnitude => magnitude.fits
  | .arr items => itemsFit items
  | .table _ es => entriesFit es
  | .tables earlier last => tablesFit earlier && entriesFit last
  | _ => true

def itemsFit : List Value → Bool
  | [] => true
  | v :: vs => v.fits && itemsFit vs

def entriesFit : List (String × Value) → Bool
  | [] => true
  | (_, v) :: es => v.fits && entriesFit es

def tablesFit : List (List (String × Value)) → Bool
  | [] => true
  | es :: ess => entriesFit es && tablesFit ess

end

def Value.toBool? : Value → Option Bool
  | .bool b => some b
  | _ => none

/-- Reads a natural number of at most 64 bits. -/
def Value.toNat? : Value → Option Nat
  | .int n => if 0 ≤ n ∧ n < UInt64.size then some n.toNat else none
  | _ => none

def Value.toText? : Value → Option String
  | .str s => some s
  | _ => none

/-- The value of an entry, or a default if there is no such entry. -/
def field {α : Type} (key : String) (read : Value → Option α) (absent : α) (es : Entries) :
    Option α :=
  match OrderedMap.find key es with
  | none => some absent
  | some v => read v

/-- The value of an item, or a default if there are fewer items. -/
def item {α : Type} (i : Nat) (read : Value → Option α) (absent : α) (items : List Value) :
    Option α :=
  match items[i]? with
  | none => some absent
  | some v => read v

/-- The entries with other keys than the given ones. -/
def others (keys : List String) (es : Entries) : Entries :=
  es.filter fun e => decide (e.1 ∉ keys)

end Toml

namespace TableConfig

def ofToml? : Toml.Value → Option TableConfig
  | .table _ es => do
      let check ← Toml.field "check_ownership" Toml.Value.toBool? defaultCheckOwnership es
      let capacity ← Toml.field "initial_capacity" Toml.Value.toNat? 0 es
      if Toml.entriesFit (Toml.others ["check_ownership", "initial_capacity"] es) then
        some ⟨check, capacity⟩
      else none
  | .arr items => do
      let check ← Toml.item 0 Toml.Value.toBool? defaultCheckOwnership items
      let capacity ← Toml.item 1 Toml.Value.toNat? 0 items
      some ⟨check, capacity⟩
  | .moment => some ⟨defaultCheckOwnership, 0⟩
  | _ => none

end TableConfig

namespace LoggingConfig

def ofToml? : Toml.Value → Option LoggingConfig
  | .table _ es => do
      let level ← Toml.field "level" Toml.Value.toText? defaultLevel es
      if Toml.entriesFit (Toml.others ["level"] es) then some ⟨level⟩ else none
  | .arr items => do
      let level ← Toml.item 0 Toml.Value.toText? defaultLevel items
      some ⟨level⟩
  | .moment => some ⟨defaultLevel⟩
  | _ => none

end LoggingConfig

namespace Config

/-- Reads a configuration from the entries of a document. -/
def ofEntries? (es : Toml.Entries) : Option Config := do
  let table ← Toml.field "table" TableConfig.ofToml? .default es
  let logging ← Toml.field "logging" LoggingConfig.ofToml? .default es
  if Toml.entriesFit (Toml.others ["table", "logging"] es) then some ⟨table, logging⟩ else none

/-- Reads a configuration from the text of a document. -/
def ofText (document : String) : Except Error Config :=
  match Toml.readDocument document with
  | .error fault => .error (.config fault.text)
  | .ok es =>
      match ofEntries? es with
      | some c => .ok c
      | none => .error (.config Toml.Fault.malformed.text)

end Config

/-- What is found at a path. -/
inductive FileContent where
  | missing
  | directory
  /-- The path, or a name in it, is longer than paths and names can be. -/
  | tooLong
  /-- The path has a character in it that paths cannot have, the one with the code zero. -/
  | noPath
  | bytes (content : ByteArray)

namespace FileContent

/-- The text of a file, or the reason why there is none. -/
def text : FileContent → Except String String
  | .missing => .error "No such file or directory (os error 2)"
  | .directory => .error "Is a directory (os error 21)"
  | .tooLong => .error "File name too long (os error 36)"
  | .noPath => .error "file name contained an unexpected NUL byte"
  | .bytes content =>
      match String.fromUTF8? content with
      | some s => .ok s
      | none => .error "stream did not contain valid UTF-8"

end FileContent

/-- The outcome of loading a configuration, with the lines logged on the way. -/
structure Loaded where
  result : Except Error Config
  log : List String

namespace Config

/-- Loads the configuration from what is found at a path. -/
def load (path : String) (content : FileContent) : Loaded :=
  match content.text with
  | .error reason =>
      ⟨.error (.config
        ("Failed to read config file " ++ Quoted.render path ++ ": " ++ reason)), []⟩
  | .ok document =>
      let result :=
        match ofText document with
        | .ok c => .ok c
        | .error e =>
            .error (.config
              ("Failed to parse config file " ++ Quoted.render path ++ ": " ++ e.message))
      ⟨result, [logLine .info ("Loading config from " ++ Quoted.render path)]⟩

end Config

/-- A choice of fields and of their order. -/
structure Outline where
  checkOwnership : Option Bool
  initialCapacity : Option Nat
  level : Option String
  /-- Whether the section of tables has a header though it has no field. -/
  tableHeader : Bool
  /-- Whether the section of the log has a header though it has no field. -/
  loggingHeader : Bool
  /-- Whether the section of tables comes first. -/
  tableFirst : Bool
  /-- Whether the field on ownership comes before the field on capacity. -/
  ownershipFirst : Bool

namespace Outline

/-- Two lists, one after the other in one order or the other. -/
def inOrder {α : Type} (first : Bool) (xs ys : List α) : List α :=
  if first then xs ++ ys else ys ++ xs

def boolText (b : Bool) : String :=
  if b then "true" else "false"

def tableFields (o : Outline) : List String :=
  inOrder o.ownershipFirst
    (o.checkOwnership.map fun b => Toml.keyLine "check_ownership" (boolText b)).toList
    (o.initialCapacity.map fun n => Toml.keyLine "initial_capacity" n.repr).toList

def loggingFields (quote : String → String) (o : Outline) : List String :=
  (o.level.map fun s => Toml.keyLine "level" (quote s)).toList

/-- A section, left out if it has no field and needs no header. -/
def sectionLines (key : String) (header : Bool) (fields : List String) : List String :=
  if fields.isEmpty && !header then [] else Toml.headerLine key :: fields

def lines (quote : String → String) (o : Outline) : List String :=
  inOrder o.tableFirst
    (sectionLines "table" o.tableHeader o.tableFields)
    (sectionLines "logging" o.loggingHeader (o.loggingFields quote))

/-- The document. -/
def document (quote : String → String) (o : Outline) : String :=
  String.join (o.lines quote)

/-- The configuration that the document stands for. -/
def config (o : Outline) : Config :=
  ⟨⟨o.checkOwnership.getD Config.default.table.checkOwnership,
      o.initialCapacity.getD Config.default.table.initialCapacity⟩,
    ⟨o.level.getD Config.default.logging.level⟩⟩

/-- All fields of a configuration. -/
def ofConfig (tableFirst ownershipFirst : Bool) (c : Config) : Outline :=
  ⟨some c.table.checkOwnership, some c.table.initialCapacity, some c.logging.level, true, true,
    tableFirst, ownershipFirst⟩

end Outline

end GotoAutomaton
