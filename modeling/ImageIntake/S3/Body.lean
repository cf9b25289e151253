import ImageIntake.Store.Program

namespace ImageIntake.S3

inductive BodyEnd where
  | complete
  | brokenOff
  deriving DecidableEq

structure Body where
  pieces : List ByteArray
  ending : BodyEnd

def totalSize : List ByteArray → Nat
  | [] => 0
  | piece :: pieces => piece.size + totalSize pieces

structure Reading where
  data : ByteArray
  rest : Body

inductive Turn where
  | onward (s : Reading)
  | settled (answer : Answer ByteArray) (unread : Body)

namespace Reading

def turn (key : String) (limit : Nat) (s : Reading) : Turn :=
  match s.rest.pieces, s.rest.ending with
  | [], .complete => .settled (.ok s.data) s.rest
  | [], .brokenOff => .settled (.error (.transport "Failed to read object body")) s.rest
  | piece :: pieces, ending =>
      if limit < s.data.size + piece.size then
        .settled (.error (.tooLarge key limit)) ⟨pieces, ending⟩
      else .onward ⟨s.data ++ piece, ⟨pieces, ending⟩⟩

theorem length_lt_of_turn {key : String} {limit : Nat} {s t : Reading}
    (h : s.turn key limit = .onward t) : t.rest.pieces.length < s.rest.pieces.length := by
  unfold turn at h
  split at h
  · cases h
  · cases h
  · next hpieces =>
    split at h
    · cases h
    · cases h
      rw [hpieces]
      exact Nat.lt_succ_self _

def run (key : String) (limit : Nat) (s : Reading) : Answer ByteArray × Body :=
  match _ : s.turn key limit with
  | .onward t => run key limit t
  | .settled answer unread => (answer, unread)
termination_by s.rest.pieces.length
decreasing_by exact length_lt_of_turn ‹_›

end Reading

def readBounded (key : String) (limit : Nat) : StateM Body (Answer ByteArray) := fun body =>
  Reading.run key limit ⟨.empty, body⟩

def receiveBody (key : String) (limit : Nat) (announced : Option Int) :
    StateM Body (Answer ByteArray) := fun body =>
  match announced with
  | some (.ofNat length) =>
      if limit < length then (.error (.tooLarge key limit), body) else readBounded key limit body
  | _ => readBounded key limit body

end ImageIntake.S3
