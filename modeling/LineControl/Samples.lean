import LineControl.Run

/-!
# Sample scripts

Programs that are built line by line and run on the port `COM4`.
-/

set_option autoImplicit false

namespace LineControl.Samples

/-- The port of the samples. -/
def port : String := "COM4"

/-- Appends lines to the program. -/
def build (lines : List Instruction) : ControlM Unit :=
  lines.forM fun i => Control.append (.ok i)

/-- A line that sets the outputs. -/
def output (label : String) (pattern : Int) (wait : Number) : Instruction :=
  .setOutput (some label) (some pattern) (some wait)

/-- Turns all outputs off, then on for a long time. -/
def allOffThenOn (limits : Limits) : ControlM Unit := do
  build [output "all_off" 0x00 2, output "all_on" 0x3F 9999]
  Control.connect port
  Control.run limits

/-- Turns two outputs on in turn, for ever. -/
def blinker (limits : Limits) : ControlM Unit := do
  build [.repeatStart none, output "out0" 0x01 0.5, output "out1" 0x02 0.5, .repeatForever]
  Control.connect port
  Control.run limits

/-- Lets a light run up and down the outputs, for ever. -/
def runningLight (limits : Limits) : ControlM Unit := do
  build [
    output "off_all" 0x00 3, output "out_all" 0x3F 3,
    .repeatStart none,
    output "out0" 0x01 0.2, output "out1" 0x02 0.2, output "out2" 0x04 0.2,
    output "out3" 0x08 0.2, output "out4" 0x10 0.2, output "out5" 0x20 0.2,
    output "out4" 0x10 0.2, output "out3" 0x08 0.2, output "out2" 0x04 0.2,
    output "out1" 0x02 0.2,
    .repeatForever]
  Control.display none false
  Control.connect port
  Control.run limits

/-- Shows an empty program on a cleared screen and checks it. -/
def emptyProgram (limits : Limits) : ControlM Unit := do
  if limits.screens = 0 then throw .stepLimit
  Control.display (some 0) true
  Control.check

end LineControl.Samples
