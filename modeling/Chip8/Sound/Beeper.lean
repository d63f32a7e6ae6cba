/-
Chip8.Sound.Beeper — the tone that the sound timer switches.

A beeper knows whether it is playing, and whether it can be heard. That
takes a device that can be opened and that takes the wave for a sound
(`Audio`). Without one a beeper stays silent and works all the same.
Starting a beeper that plays and stopping one that does not do nothing.

`follow` has a beeper do what a journal asks of the tone; `narrate` tells
what is said meanwhile.

How building one goes is proved in `Proofs.Sound.Build`, and what it is
asked of its device in `Proofs.Sound.Tone`.
-/
import Chip8.Log.Journal
import Chip8.Sound.Wave

namespace Chip8

/-- An audio device, by its sample rate and number of channels. -/
structure AudioDevice where
  rate : Int := 44100
  channels : Int := 1
deriving DecidableEq, Repr

/-- What comes of the audio of a host: the device that can be opened, or why
none can; and why a wave is not taken for a sound, if it is not. -/
structure Audio where
  device : Except String AudioDevice
  sound : Wave → Except String Unit := fun _ => .ok ()

/-- What a device is asked to do. -/
inductive DeviceCall where
  | play | stop
deriving DecidableEq, Repr

/-- What is said of a call of the device. -/
def DeviceCall.record : DeviceCall → Log.Record
  | .play => Log.debug "Beeper audio start"
  | .stop => Log.debug "Beeper audio pause"

/-- A looping tone that can be switched. -/
structure Beeper where
  frequency : Int
  amplitude : Int
  wave : Option Wave := none
  playing : Bool := false
deriving DecidableEq, Repr

namespace Beeper

def available (b : Beeper) : Bool := b.wave.isSome

/-- What is said of a beeper that is silent because of the audio. -/
def silencedRecord (reason : String) : Log.Record :=
  Log.error s!"Unable to open audio device, sound disabled: {reason}"

/-- A beeper on the audio of a host, with the memory that its wave is built
in. The device is opened before the wave is built, and the wave is built
before it is a sound. Nothing is said of numbers too long to be written. -/
def make (frequency amplitude : Int) (enable : Bool) (memory : Number.Room) (audio : Audio) :
    Except WaveError Beeper × List Log.Record :=
  let silent : Beeper := { frequency, amplitude }
  if !enable then (.ok silent, [Log.info "Audio disabled in config"])
  else if !(Number.isWritable frequency && Number.isWritable amplitude) then
    (.error .unwritable, [])
  else
    let creating := Log.debug
      s!"Creating beeper with {frequency} Hz and amplitude of {amplitude}"
    match audio.device with
    | .error reason => (.ok silent, [creating, silencedRecord reason])
    | .ok device =>
        match Wave.square memory device.rate frequency amplitude device.channels with
        | .error e => (.error e, [creating])
        | .ok wave =>
            match audio.sound wave with
            | .error reason => (.ok silent, [creating, silencedRecord reason])
            | .ok () => (.ok { silent with wave := some wave }, [creating])

/-- Switch the tone on. A device is called if the tone was off. -/
def start (b : Beeper) : Beeper × Option DeviceCall :=
  if b.playing then (b, none)
  else ({ b with playing := true }, if b.available then some .play else none)

/-- Switch the tone off. A device is called if the tone was on. -/
def stop (b : Beeper) : Beeper × Option DeviceCall :=
  if b.playing then ({ b with playing := false }, if b.available then some .stop else none)
  else (b, none)

def react (b : Beeper) : Entry → Beeper × Option DeviceCall
  | .toneOn => b.start
  | .toneOff => b.stop
  | .poll | .keypad | .frame .. | .log _ => (b, none)

/-- Do what a journal asks of the tone, one effect after the other, and
tell the calls of the device. -/
def follow (b : Beeper) : Journal → Beeper × List DeviceCall
  | [] => (b, [])
  | entry :: rest =>
      let (after, call) := b.react entry
      let (final, calls) := after.follow rest
      (final, call.toList ++ calls)

/-- What is said in the course of a journal, with the calls of the device
where they happen. -/
def narrate (b : Beeper) : Journal → List Log.Record
  | [] => []
  | entry :: rest =>
      let (after, call) := b.react entry
      Journal.records [entry] ++ call.toList.map DeviceCall.record ++ after.narrate rest

end Beeper

end Chip8
