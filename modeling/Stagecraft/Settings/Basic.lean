/-
Module: Stagecraft.Settings.Basic
Purpose: The settings of a run, and how they are loaded and saved.
Main exports:
  Settings, Settings.delta, Settings.load, Settings.save
-/
import Stagecraft.Number.Conversion
import Stagecraft.Settings.Ini
import Stagecraft.Text.Numeral

namespace Stagecraft

/-- The settings of a run: the table document, the ticks of a second, the
timing of animations, and the bound on nested nodes. -/
structure Settings where
  tablesPath : String := "./assets/tables.json"
  tickRate : Nat := 60
  framesPerCycle : Nat := 4
  ticksPerFrame : Nat := 6
  maxDepth : Nat := 64
deriving Repr, DecidableEq, Inhabited

namespace Settings

/-- The length of a tick in seconds. -/
def delta (settings : Settings) : Float32 :=
  1 / Number.singleOfInt (max 1 settings.tickRate)

/-! ### The places of the settings in a file -/

def tablesPathPlace : String × String := ("tables", "path")

def tickRatePlace : String × String := ("simulation", "tick_rate")

def framesPerCyclePlace : String × String := ("animation", "frames_per_cycle")

def ticksPerFramePlace : String × String := ("animation", "ticks_per_frame")

def maxDepthPlace : String × String := ("interpreter", "max_depth")

/-- The number under a place of a file, if a number of 64 bits stands there. -/
def number? (ini : Ini) (place : String × String) : Option Nat :=
  (ini.get? place).bind fun text => (Text.integer? .word64 text).map Int.toNat

def low32 (n : Nat) : Nat := n % 4294967296

/-- Take over what a file sets; everything else stays. -/
def withIni (settings : Settings) (ini : Ini) : Settings :=
  { tablesPath := (ini.get? tablesPathPlace).getD settings.tablesPath
    tickRate :=
      ((number? ini tickRatePlace).map fun n => max 1 (low32 n)).getD settings.tickRate
    framesPerCycle :=
      ((number? ini framesPerCyclePlace).map low32).getD settings.framesPerCycle
    ticksPerFrame :=
      ((number? ini ticksPerFramePlace).map low32).getD settings.ticksPerFrame
    maxDepth := (number? ini maxDepthPlace).getD settings.maxDepth }

/-- The settings after loading a file, if it can be read. -/
def load (settings : Settings) (text : String) : Except IniError Settings :=
  (Ini.parse text).map settings.withIni

def writeNumber (n : Nat) : String := String.ofList (Text.decimal n)

/-- The file that holds all settings. -/
def save (settings : Settings) : String :=
  Ini.write
    [ (tablesPathPlace, settings.tablesPath),
      (tickRatePlace, writeNumber settings.tickRate),
      (framesPerCyclePlace, writeNumber settings.framesPerCycle),
      (ticksPerFramePlace, writeNumber settings.ticksPerFrame),
      (maxDepthPlace, writeNumber settings.maxDepth) ]

end Settings

end Stagecraft
