import LineFill.Break.Class

/-!
The pair rules of the Unicode line-breaking algorithm (UAX #14) as a state machine. A state
remembers what the rules need of the characters read so far; a row has one byte for each class
that may come next and a last one for the end of the text. The low six bits of a byte are the next
state, its top bit allows a break before the character, and the bit below says that the break is
mandatory, so that a joiner does not hold it back.
-/
namespace LineFill.Break

abbrev State := Fin 53

namespace State

def startOfText : State := 44

def rows : Array Nat := #[
  0xc0c1c2ddc4ddc6c7c8c9ddcbcccdcecfd0d1d2d3d4d5d6d7d8d9dadbddddd4dfe0e1e2e3e4e5e6e7e8ddddeb,
  0xc0c102ddc4ddc6c7c8c9ddcbcccdcecfd0d1d2d3d4d5d6d7d8d9dadbddddd4dfe0e1e2e3e4e5e6e7e8ddddeb,
  0xc0c1c2ddc4ddc6c7c8c9ddcbcccdcecfd0d1d2d3d4d5d6d7d8d9dadbddddd4dfe0e1e2e3e4e5e6e7e8ddddeb,
  0x00010203041d06070809038b0c8d0e8f101112131415161718191a1b1d1d149fa0a1a223a4a5a6a7a81d1deb,
  0xc0c1c2ddc4ddc6c7c8c9ddcbcccdcecfd0d1d2d3d4d5d6d7d8d9dadbddddd4dfe0e1e2e3e4e5e6e7e8ddddeb,
  0x0001021d041d060708091d8b0c8d0e8f101112131415161718191a1b1d1d149fa0a1a223a4a5a6a7a81d1deb,
  0x00010206041d06070809060b0c0d0e0f101112131415161718191a1b1d1d141f2021222324252627281d1deb,
  0x0001029d049d8607882d9d8b8c8d8e8f909192939495969798999a9b9d9d949fa0a1a2a3a4a5a6a7a89d9deb,
  0x00010208041d06070809080b0c0d0e0f101112131415161718191a1b1d1d141f2021222324252627281d1deb,
  0x0001029d049d060788099d8b8c8d8e8f101112939495961798999a1b9d9d949fa0a1a2a3a4a5a6a7a89d9deb,
  0x0001020a041d060708090a8b0c8d0e8f101112131415161718191a1b1d1d149fa0a1a223a4a5a6a7a81d1deb,
  0x0001020b049d060708320b0b0c8d0e8f101112131495161798999a1b9d9d149fa0a1a2a3a4a5a6a7a89d9deb,
  0x0001020c049d060788090c8b0c8d0e8f101112131495161798999a1b9d9d149fa0a1a2a3a4a5a6a7a89d9deb,
  0x0001020d041d060708090d0b0c0d0e8f101112131415161718191a1b1d1d141f2021222324252627281d1deb,
  0x0001020e049d060788090e8b0c8d0e8f101112131495161718999a1b9d9d149fa0a1a2a3a4a5a6a7a89d9deb,
  0x0001020f049d060708090f8b8c8d8e8f101112939495161798999a1b9d9d949fa0a1a2a3a4a5a6a7a89d9deb,
  0x00010210049d06070830108b0c8d0e8f101112131495161798191a1b9d9d149fa0a1a2a3a4a5a6a7a89d9deb,
  0x00010211041d06070831118b0c8d0e8f101112131495161718191a1b1d1d149fa0a1a223a4a5a6a7a81d1deb,
  0x00010212049d06070809128b0c8d0e8f101112131495161798999a1b9d9d149fa0a1a2a3a4a5a6a7a89d9deb,
  0x00010213049d06070809138b0c8d0e8f101112131495161798999a1b9d9d149fa0a1a2a3a4a5a6a7a89d9deb,
  0x00010214049d06070809148b0c8d0e8f101112131495161798999a1b9d9d149fa0a1a2a3a4a5a6a7a89d9deb,
  0x00010215041d0607082e150b0c0d0e0f101112131415161718191a1b1d1d141f2021222324252627281d1deb,
  0x00010216041d0607082f160b0c0d0e0f101112131415161718191a1b1d1d141f2021222324252627281d1deb,
  0x00010217041d06070809178b0c8d0e8f101112131495161718999a1b1d1d149fa0a1a223a4a5a6a7a81d1deb,
  0x00010218041d06070809188b0c8d0e8f101112131415161718191a1b1d1d149fa0a1a223a4a5a6a7a81d1deb,
  0x00010219041d06070809198b0c8d0e8f101112131415161718999a1b1d1d149fa0a1a223a4a5a6a7a81d1deb,
  0x0001021a041d060708091a8b0c8d0e8f101112131415161718999a1b1d1d141f2021222324252627a81d1deb,
  0x0001021b049d060708091b8b0c8d0e8f101112131495161718999a1b9d9d149fa0a1a223a4a5a6a7a89d9deb,
  0x0001021d041d060708091d8b0c8d0e8f101112131415161718191a1b1d1d149fa0a1a223a4a5a6a7a81d1deb,
  0x0001021d041d060708091d8b0c8d0e8f101112131415161718191a1b1d1d149fa0a1a223a4a5a6a7a81d1deb,
  0x00010214049d06070809148b0c8d0e8f101112131495161798999a1b9d9d149fa0a1a2a3a4a5a6a7a89d9deb,
  0x0001021f049d060708091f8b0c8d0e8f101112131495161798199a1b9d9d149f20a1a2a3a4a5a6a7a89d9deb,
  0x00010220049d06070809208b0c8d0e8f101112131495161798199a1b9d9d149fa0a1a2a3a4a5a6a7a89d9deb,
  0x00010221049d06070809218b0c8d0e8f101112131495161798199a1b9d9d149fa0a1a2a3a4a52627a89d9deb,
  0x00010222049d06070809228b0c8d0e8f101112131495161798199a1b9d9d149fa0a1a2a3a4a5a627a89d9deb,
  0x00010223041d06070809238b338d338f101112131415161718191a1b1d1d149fa0a1a223a4a5a6a7a81d1deb,
  0x00010224049d06070809248b0c8d0e8f101112131495161798199a1b9d9d149fa0a1a2a3a4a5a6a7a89d9deb,
  0x00010225049d06070809258b0c8d0e8f101112131495161798199a1b9d9d149fa02122a3a42526a7a89d9deb,
  0x00010226049d06070809268b0c8d0e8f101112131495161798199a1b9d9d149fa0a1a2a3a4a52627a89d9deb,
  0x00010227049d06070809278b0c8d0e8f101112131495161798199a1b9d9d149fa0a1a2a3a4a5a627a89d9deb,
  0x00010228049d06070809288b0c8d0e8f101112131495161798999a1b9d9d149fa0a1a2a3a4a5a6a7349d9deb,
  0x0001021d041d060708091d8b0c8d0e8f101112131415161718191a1b1d1d149fa0a1a223a4a5a6a7a81d1deb,
  0x0001021d041d060708091d8b0c8d0e8f101112131415161718191a1b1d1d149fa0a1a223a4a5a6a7a81d1deb,
  0x0001029d049d060788099d8b0c8d0e8f101112131495161798999a1b9d9d149fa0a1a2a3a4a5a6a7a89d9deb,
  0x0001021d041d060708091d0b0c0d0e0f101112131415161718191a1b1d1d141f2021222324252627281d1d2b,
  0x0001029d049d8607882d9d8b8c8d8e8f909192939495969798999a9b9d9d949fa0a1a2a3a4a5a6a7a89d9deb,
  0x0001021d041d0607082e1d0b0c0d0e0f101112131415161718191a1b1d1d141f2021222324252627281d1deb,
  0x0001029d049d0607882f9d8b8c8d8e8f101112939415961798999a1b9d9d949fa0a1a2a3a4a5a6a7a89d9deb,
  0x0001029d049d060788309d8b8c8d8e8f101112931495961798999a1b9d9d149fa0a1a2a3a4a5a6a7a89d9deb,
  0x0001029d049d060788319d8b8c8d8e8f101112931495961798999a1b9d9d149fa0a1a2a3a4a5a6a7a89d9deb,
  0x0001029d049d060788329d0b8c8d8e8f101112939495961798999a1b9d9d949fa0a1a2a3a4a5a6a7a89d9deb,
  0x00010233041d06070809330b0c0d0e8f101112131415161718191a1b1d1d141f2021222324252627281d1deb,
  0x00010234049d06070809348b0c8d0e8f101112131495161798999a1b9d9d149fa0a1a2a3a4a5a6a7a89d9deb]

/-- The byte in a column of the row of a state, counted from the left. -/
def entry (state : State) (column : Nat) : Nat :=
  (rows[state.val]?.getD 0 >>> (8 * (43 - column))) % 256

end State

structure Transition where
  next : State
  allowed : Bool
  mandatory : Bool
  deriving DecidableEq, Repr

namespace Transition

def ofEntry (entry : Nat) : Transition :=
  ⟨Fin.ofNat 53 (entry % 64), entry.testBit 7, entry.testBit 6⟩

def onClass (state : State) (cls : BreakClass) : Transition := ofEntry (state.entry cls.column)

def atEnd (state : State) : Transition := ofEntry (state.entry 43)

/-- A joiner before the character holds back every break that is not mandatory. -/
def breaks (t : Transition) (joined : Bool) : Bool := t.allowed && (!joined || t.mandatory)

/-- Every entry of a class names a state, so none is wrapped around. -/
theorem entry_lt (state : State) (column : Fin 44) : state.entry column % 64 < 53 := by
  revert state column
  decide +kernel

/-- The end of a text is a mandatory break in every state but the first. -/
theorem atEnd_breaks {state : State} (h : state ≠ .startOfText) (joined : Bool) :
    (atEnd state).breaks joined = true := by
  revert state joined
  decide +kernel

/-- No character leads back to the first state. -/
theorem onClass_next_ne (state : State) (cls : BreakClass) :
    (onClass state cls).next ≠ .startOfText := by
  revert state
  cases cls <;> decide +kernel

end Transition

end LineFill.Break
