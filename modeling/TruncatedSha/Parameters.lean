import TruncatedSha.Context

/-!
# Sizes

The sizes by which callers lay out their buffers, in bytes unless it says otherwise. They agree
with the types: a `Block` has `blockLength` bytes and a `Digest` has `digestLength`.
-/
namespace TruncatedSha.Parameters

def blockLength : Nat := 128

def digestLength : Nat := 32

/-- In words. -/
def stateLength : Nat := 8

def lengthFieldLength : Nat := 16

/-- The byte directly behind the message. -/
def paddingMark : UInt8 := 0x80

theorem block_eq : Block = Vector UInt8 blockLength := rfl

theorem digest_eq : Digest = Vector UInt8 digestLength := rfl

theorem length_words (s : State) : s.words.length = stateLength := rfl

end TruncatedSha.Parameters
