import CommandConsole.Command.Script
import CommandConsole.Text.Lines
import CommandConsole.Text.LowerCase

/-!
# Drafts of commands

A command is built from a `Draft`, whose parts may be missing or of the wrong kind. `Draft.build` refuses a name that is
empty or holds a blank and a part that cannot be called, and fills in what may be left out.
-/

namespace CommandConsole

/-- A callable part of a draft: left out, supplied, or a plain value in its place. -/
inductive Part (α : Type) where
  | absent
  | callable (f : α)
  | value (v : Value)
  deriving Inhabited

/-- What a command is built from. -/
structure Draft where
  name : Value
  action : Part Action := .absent
  description : Value := .string ""
  usage : Value := .string ""
  validator : Part Validator := .absent
  completer : Part Completer := .absent
  deriving Inhabited

/-- Why a draft is no command. -/
inductive DraftError where
  | blankName
  | blankInName (name : String)
  | notCallable (name part kind : String)
  deriving Repr, DecidableEq

/-- A draft error as a fault. -/
def DraftError.fault : DraftError → Fault
  | blankName => .badValue "Command name must be a non-empty string."
  | blankInName name => .badValue s!"Command name '{name}' must not contain whitespace."
  | notCallable name part kind => .badType s!"Command '{name}': {part} must be callable, got {kind}."

/-- A part that may be left out; nothing at all counts as left out, any other plain value is refused. -/
def Part.get? {α : Type} (name label : String) : Part α → Except DraftError (Option α)
  | absent => .ok none
  | callable f => .ok (some f)
  | value .null => .ok none
  | value v => .error (.notCallable name label v.kindName)

namespace Draft

/-- A name that a command may have: a text that is not empty and holds no blank. -/
def checkName (v : Value) : Except DraftError String :=
  match v.text? with
  | some s =>
    if allBlank s then .error .blankName
    else if s.toList.any isBlank then .error (.blankInName s)
    else .ok s
  | none => .error .blankName

/-- Builds a command. Without an action it does nothing, without a usage line its name stands for it. -/
def build (d : Draft) : Except DraftError Command := do
  let name ← checkName d.name
  let action ← d.action.get? name "action"
  let validator ← d.validator.get? name "validator"
  let completer ← d.completer.get? name "tab_complete"
  return {
    name
    action := action.getD fun _ => .done
    description := if d.description.truthy then d.description else .string ""
    usage := if d.usage.truthy then d.usage else .string name
    validator
    completer }

/-- The first line of a comment, if it has one. -/
def firstLine (doc : String) : String := ((splitLines (strip doc)).head?).getD ""

/-- The text that a value is taken for where a text is trimmed: what counts as false is empty, other values cannot be
trimmed. -/
def trimmable (v : Value) : Except Fault String :=
  match v.text? with
  | some s => .ok s
  | none => if v.truthy then .error ⟨.missingMember, s!"'{v.kindName}' object has no attribute 'strip'"⟩ else .ok ""

/-- A draft for a function with a name and a comment: they give the command's name and description unless these are
supplied. -/
def ofFunction (function : String) (doc name description usage : Value) (action : Action)
    (validator : Part Validator) (completer : Part Completer) : Except Fault Draft := do
  let line := firstLine (← trimmable doc)
  let description ← if description.truthy then trimmable description else pure line
  return {
    name := if name.truthy then name else .string function
    action := .callable action
    description := .string (strip description)
    usage := if usage.truthy then usage else .string ""
    validator
    completer }

end Draft

namespace Definition

/-- The name under which a command is registered and looked up. -/
def key {α : Type} (d : Definition α) : String := lowerCase d.name

/-- What is told of a command. -/
def info {α : Type} (d : Definition α) : CommandInfo := ⟨d.key, d.name, d.description, d.usage⟩

end Definition

end CommandConsole
