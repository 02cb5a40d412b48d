import PipeForge.Protocol.Framing

/-!
# Transport contracts

Failures and endpoint names shared by the client, the server and the command
line (transport.hpp, completion.cpp). A wide string is its list of UTF-16 units;
time points of the monotonic clock are natural numbers.
-/

namespace PipeForge.Transport
open Contracts

abbrev WString := List UInt16

abbrev Time := Nat

inductive FailureKind where
  | invalidConfiguration | timeout | cancelled | disconnected | accessDenied | ioFailure
  | protocolViolation
  deriving DecidableEq, Repr

structure Failure where
  kind : FailureKind := .ioFailure
  nativeError : UInt32 := 0
  framing : Option Protocol.Failure := none
  deriving DecidableEq, Repr

abbrev Result (α : Type) := Except Failure α

/-- The units of `\\.\pipe\`. -/
def pipeRoot : WString := [0x5C, 0x5C, 0x2E, 0x5C, 0x70, 0x69, 0x70, 0x65, 0x5C]

def maxEndpointCharacters : Nat := 240

def endpointCharacter (c : UInt16) : Bool :=
  (0x61 ≤ c && c ≤ 0x7A) || (0x41 ≤ c && c ≤ 0x5A) || (0x30 ≤ c && c ≤ 0x39) || c == 0x5F ||
    c == 0x2D || c == 0x2E

def validEndpoint (name : WString) : Bool :=
  if !pipeRoot.isPrefixOf name || decide (name.length ≤ pipeRoot.length) ||
      decide (name.length > maxEndpointCharacters) then false
  else (name.drop pipeRoot.length).all endpointCharacter

end PipeForge.Transport
