/-
Module: Stagecraft.Main
Purpose: The program: it reads the files that its command line names and prints
  what comes of them.
Main exports:
  main
-/
import Stagecraft.CommandLine.Report

namespace Stagecraft

/-- The system's number of an error, which some calls give with a minus sign. -/
def systemCode (code : UInt32) : Nat := min code.toNat (0 - code).toNat

/-- Why a file cannot be read, as far as the system tells. -/
def ReadFault.ofError : IO.Error → ReadFault
  | .noFileOrDirectory _ _ _ => .absent
  | .permissionDenied _ _ _ => .forbidden
  | .inappropriateType _ code details => ofCode code details
  | .invalidArgument _ code details => ofCode code details
  | .otherError code details => ofCode code details
  | error => .other (toString error)
where
  ofCode (code : UInt32) (details : String) : ReadFault :=
    match systemCode code with
    | 20 => .notFolder
    | 21 => .isFolder
    | 36 => .nameTooLong
    | number => .other (numbered details number)

/-- The text of a file, or why it cannot be read. -/
def readText (path : String) : IO (Except ReadFault String) := do
  match ReadFault.ofPath? path with
  | some fault => pure (.error fault)
  | none =>
      match ← (IO.FS.readBinFile path).toBaseIO with
      | .ok bytes =>
          match String.fromUTF8? bytes with
          | some text => pure (.ok text)
          | none => pure (.error .notText)
      | .error error => pure (.error (ReadFault.ofError error))

end Stagecraft

/-- Carry out a command line and print the transcript. -/
def main (words : List String) : IO UInt32 := do
  let transcript ← Stagecraft.Transcript.ofWords Stagecraft.readText words
  IO.print transcript.output
  IO.eprint transcript.errors
  pure (UInt32.ofNat transcript.exitCode)
