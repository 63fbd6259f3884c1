import Voip.Wire.Bytes

namespace wire

/-- The receiving end of a byte stream: the bytes still to come, whether the other side has closed
it behind them, and how the network cuts it, by the number of reads so far. -/
structure Reader where
  stream : Bytes
  closed : Bool
  cut : Nat → Nat
  reads : Nat

namespace Reader

/-- The reader once it has given so many bytes. -/
def skip (size : Nat) (reader : Reader) : Reader :=
  { reader with stream := reader.stream.drop size, reads := reader.reads + 1 }

/-- At most so many bytes, and as few as the network likes, but some if there are any. Nothing is
the end of the stream. A read waits while there is neither. -/
def read (count : Nat) (reader : Reader) : Option (Bytes × Reader) :=
  let size := min count (min (reader.cut reader.reads + 1) reader.stream.length)
  if reader.stream.isEmpty && !reader.closed then none
  else some (reader.stream.take size, reader.skip size)

/-- So many bytes have been read. -/
structure Advanced (reader reader' : Reader) (count : Nat) : Prop where
  stream : reader'.stream = reader.stream.drop count
  closed : reader'.closed = reader.closed

variable {reader reader' reader'' : Reader} {count count' : Nat}

theorem Advanced.refl (reader : Reader) : Advanced reader reader 0 := ⟨rfl, rfl⟩

theorem Advanced.trans (hfirst : Advanced reader reader' count) (hsecond : Advanced reader' reader'' count') :
    Advanced reader reader'' (count + count') := by
  refine ⟨?_, hsecond.closed.trans hfirst.closed⟩
  rw [hsecond.stream, hfirst.stream, List.drop_drop]

/-- A read of a stream that has bytes gives some of them. -/
theorem read_of_ne_nil (hstream : reader.stream ≠ []) (hcount : 0 < count) :
    ∃ size reader', 0 < size ∧ size ≤ count ∧ size ≤ reader.stream.length ∧
      Advanced reader reader' size ∧ reader.read count = some (reader.stream.take size, reader') := by
  have hmore : reader.stream.isEmpty = false := by simpa using hstream
  have hlength := List.length_pos_iff.2 hstream
  refine ⟨min count (min (reader.cut reader.reads + 1) reader.stream.length), reader.skip _,
    by omega, by omega, by omega, ⟨rfl, rfl⟩, ?_⟩
  simp only [read, hmore, Bool.false_and, Bool.false_eq_true, if_false]

theorem read_of_closed (count : Nat) (hstream : reader.stream = []) (hclosed : reader.closed = true) :
    ∃ reader', reader.read count = some ([], reader') := by
  refine ⟨reader.skip 0, ?_⟩
  simp [read, hstream, hclosed]

theorem read_of_open (hstream : reader.stream = []) (hopen : reader.closed = false) :
    reader.read count = none := by
  simp [read, hstream, hopen]

end Reader

end wire
