import Fieldbus.Notice

/-! Listeners: channels of bounded capacity that received frames are copied to.  A channel may be
registered any number of times and gets a copy for each.  Frames for a full channel are dropped, and
registrations of a channel that nobody reads any more are removed when the next frame comes. -/

namespace Fieldbus

structure Channel where
  capacity : Nat
  frames : List Frame := []
  isOpen : Bool := true
deriving DecidableEq, Inhabited

/-- All channels by key, and the keys of the registrations in their order. -/
structure Listeners where
  channels : List (String × Channel) := []
  registered : List String := []
deriving DecidableEq, Inhabited

namespace Listeners

def channel? (l : Listeners) (key : String) : Option Channel := l.channels.lookup key

def adjust (l : Listeners) (key : String) (f : Channel → Channel) : Listeners :=
  { l with channels := l.channels.map fun (k, c) => if k = key then (k, f c) else (k, c) }

def make (l : Listeners) (key : String) (capacity : Nat) : Listeners :=
  match l.channel? key with
  | some _ => l
  | none => { l with channels := l.channels ++ [(key, { capacity })] }

def register (l : Listeners) (key : String) : Listeners :=
  { l with registered := l.registered ++ [key] }

def listen (l : Listeners) (key : String) (capacity : Nat) : Listeners :=
  (l.make key capacity).register key

def deregister (l : Listeners) (key : String) : Bool × Listeners :=
  (l.registered.contains key, { l with registered := l.registered.erase key })

/-- Nobody reads the channel any more; what waits in it is lost. -/
def hangUp (l : Listeners) (key : String) : Bool × Listeners :=
  (((l.channel? key).map Channel.isOpen).getD false,
    l.adjust key fun c => { c with frames := [], isOpen := false })

def take (l : Listeners) (key : String) (limit : Option Nat) : List Frame × Listeners :=
  let frames := ((l.channel? key).map Channel.frames).getD []
  let n := limit.getD frames.length
  (frames.take n, l.adjust key fun c => { c with frames := c.frames.drop n })

/-- What happens to a copy of a frame at one registration. -/
inductive Receipt where
  | taken
  | full
  | gone
deriving DecidableEq

/-- Puts a copy of a frame into a channel if it is open and has room. -/
def offer (l : Listeners) (key : String) (f : Frame) : Receipt × Listeners :=
  match l.channel? key with
  | some c =>
    if !c.isOpen then (.gone, l)
    else if c.frames.length < c.capacity then
      (.taken, l.adjust key fun c => { c with frames := c.frames ++ [f] })
    else (.full, l)
  | none => (.gone, l)

/-- Copies a frame to the channels of `keys` in turn; the registrations that remain are put behind
those already kept. -/
def deliverTo (l : Listeners) (f : Frame) : List String → Listeners × List Notice
  | [] => (l, [])
  | key :: rest =>
    match l.offer key f with
    | (.taken, l) => { l with registered := l.registered ++ [key] }.deliverTo f rest
    | (.full, l) =>
      let (l, notices) := { l with registered := l.registered ++ [key] }.deliverTo f rest
      (l, .listenerFull f :: notices)
    | (.gone, l) =>
      let (l, notices) := l.deliverTo f rest
      (l, .listenerGone :: notices)

def deliver (l : Listeners) (f : Frame) : Listeners × List Notice :=
  { l with registered := [] }.deliverTo f l.registered

end Listeners
end Fieldbus
