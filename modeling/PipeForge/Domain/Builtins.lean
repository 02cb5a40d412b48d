import PipeForge.Domain.Registry
import PipeForge.Library.SizeT

/-!
# Built-in classes

`Counter` and `TextBuffer` of builtins.cpp, the two classes the server registers
at startup.
-/

namespace PipeForge.Domain
open Contracts Library

def singleArgument (arguments : List NamedValue) (name : Bytes) : Option Value :=
  match arguments with
  | [argument] =>
    if argument.name ≠ name ∨ validValue argument.data = false then none else some argument.data
  | _ => none

def integerOf : Value → Option Int64
  | .integer n => some n
  | _ => none

def textOf : Value → Option Bytes
  | .text bytes => some bytes
  | _ => none

/-! ## Counter -/

def counterInvoke (value : Int64) (name : Bytes) (arguments : List NamedValue) :
    DomainResult Value × Int64 :=
  if name ≠ ascii "increment" then (.error (makeError .notFound), value)
  else
    match (singleArgument arguments (ascii "delta")).bind integerOf with
    | none => (.error (makeError .invalidRequest), value)
    | some delta =>
      -- The guard subtracts before the addition is evaluated.
      if (delta > 0 ∧ value > Int64.maxValue - delta) ∨
          (delta < 0 ∧ value < Int64.minValue - delta) then
        (.error (makeError .numericOverflow), value)
      else (.ok (.integer (value + delta)), value + delta)

def counterObject (initial : Int64) : Object where
  State := Int64
  current := initial
  stateOf value := [⟨ascii "value", .integer value⟩]
  cloneOf := some
  invokeOf := counterInvoke
  clone_exact := Object.copy_exact

def counterDefinition : ClassDefinition where
  description :=
    { name := ascii "Counter"
      attributes := [⟨ascii "value", .integer, true⟩]
      methods := [⟨ascii "increment", [⟨ascii "delta", .integer⟩], .integer⟩]
      constructorParameters := [⟨ascii "initial", .integer⟩] }
  create := some fun arguments =>
    match (singleArgument arguments (ascii "initial")).bind integerOf with
    | none => .error (makeError .invalidRequest)
    | some initial => .ok (some (counterObject initial))
  maxStateBytes := maxObjectStateBytes

/-! ## TextBuffer -/

def textBufferInvoke (text : Bytes) (name : Bytes) (arguments : List NamedValue) :
    DomainResult Value × Bytes :=
  if name ≠ ascii "append" then (.error (makeError .notFound), text)
  else
    match (singleArgument arguments (ascii "suffix")).bind textOf with
    | none => (.error (makeError .invalidRequest), text)
    | some suffix =>
      if suffix.length > SizeT.sub maxStringBytes text.length then
        (.error (makeError .quotaExceeded), text)
      else (.ok (.text (text ++ suffix)), text ++ suffix)

def textBufferObject (initial : Bytes) : Object where
  State := Bytes
  current := initial
  stateOf text := [⟨ascii "text", .text text⟩]
  cloneOf := some
  invokeOf := textBufferInvoke
  clone_exact := Object.copy_exact

def textBufferDefinition : ClassDefinition where
  description :=
    { name := ascii "TextBuffer"
      attributes := [⟨ascii "text", .text, true⟩]
      methods := [⟨ascii "append", [⟨ascii "suffix", .text⟩], .text⟩]
      constructorParameters := [⟨ascii "initial", .text⟩] }
  create := some fun arguments =>
    match (singleArgument arguments (ascii "initial")).bind textOf with
    | none => .error (makeError .invalidRequest)
    | some initial => .ok (some (textBufferObject initial))
  maxStateBytes := maxObjectStateBytes

/-- The registry of a default server. -/
def builtinRegistry : ClassRegistry :=
  ((ClassRegistry.empty.add counterDefinition).2.add textBufferDefinition).2

-- Neither registration is refused.
example : builtinRegistry.definitions.map (·.name) = [ascii "Counter", ascii "TextBuffer"] := by
  decide +kernel

end PipeForge.Domain
