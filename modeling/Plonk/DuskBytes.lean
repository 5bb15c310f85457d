import Mathlib

/-!
The part of `dusk_bytes` that `Proof::to_bytes` and `Proof::from_bytes` run
on: fixed-size encodings (`Serializable<N>`), the slice writer `&mut [u8]`
and the slice reader `&[u8]`. The crate is not among the sources. Its writer
and reader follow one contract, which is all that is modelled: an operation
on more bytes than the slice still holds fails with `BadLength` and leaves
the slice where it was, and otherwise it copies the bytes and moves the slice
past them.

The run lemmas here are the two facts the proof encoding needs: a sequence of
writes that fits fills the buffer front to back with every write succeeding,
and `from_reader` on an encoding followed by anything reads back the value
and leaves exactly the rest.
-/

namespace Plonk.DuskBytes

/-- `dusk_bytes::Error`: a decoder's rejection of bytes that are not an
encoding, and the length error of the slice reader and writer. -/
inductive Error
  | invalidData
  | badLength (found expected : Nat)
  deriving DecidableEq, Repr

/-- A type with a fixed-size byte encoding, `Serializable<N>`. `to_bytes`
returns a `[u8; N]`, so every encoding has length `size`; `from_bytes` is
only ever applied to `N` bytes. -/
structure Serializable (α : Type) where
  size : Nat
  toBytes : α → List UInt8
  fromBytes : List UInt8 → Except Error α
  toBytes_length : ∀ a, (toBytes a).length = size

variable {α : Type}

/-- `from_bytes` undoes `to_bytes`. -/
def Serializable.RoundTrip (s : Serializable α) : Prop :=
  ∀ a, s.fromBytes (s.toBytes a) = .ok a

/-- `from_bytes` accepts only encodings: whatever `N` bytes it decodes are
the encoding of the value it returns. -/
def Serializable.Canonical (s : Serializable α) : Prop :=
  ∀ bytes a, bytes.length = s.size → s.fromBytes bytes = .ok a → s.toBytes a = bytes

/-! ## The slice writer -/

/-- The writer `&mut buf[..]` part way through: `written` is the front of
`buf` already filled, `rest` the slice the writer points to. -/
structure SliceWriter where
  written : List UInt8
  rest : List UInt8

/-- The whole buffer under the writer. -/
def SliceWriter.buffer (w : SliceWriter) : List UInt8 := w.written ++ w.rest

/-- `Write::write` for `&mut [u8]`. -/
def SliceWriter.write (w : SliceWriter) (data : List UInt8) :
    Except Error Unit × SliceWriter :=
  if w.rest.length < data.length then
    (.error (.badLength w.rest.length data.length), w)
  else
    (.ok (), ⟨w.written ++ data, w.rest.drop data.length⟩)

/-- A sequence of write statements, in order, with each one's result. -/
def SliceWriter.writeAll : SliceWriter → List (List UInt8) →
    List (Except Error Unit) × SliceWriter
  | w, [] => ([], w)
  | w, data :: more =>
    let (result, next) := w.write data
    let (results, final) := next.writeAll more
    (result :: results, final)

theorem SliceWriter.write_of_fits (w : SliceWriter) (data : List UInt8)
    (hfits : data.length ≤ w.rest.length) :
    w.write data = (.ok (), ⟨w.written ++ data, w.rest.drop data.length⟩) := by
  simp [SliceWriter.write, Nat.not_lt.mpr hfits]

/-- Writes whose lengths add up to at most the room left all succeed, and
lay their bytes down one after the other at the front of the slice. -/
theorem SliceWriter.writeAll_of_fits (chunks : List (List UInt8)) :
    ∀ w : SliceWriter, (chunks.map List.length).sum ≤ w.rest.length →
      w.writeAll chunks =
        (chunks.map fun _ => .ok (),
          ⟨w.written ++ chunks.flatten, w.rest.drop (chunks.map List.length).sum⟩) := by
  induction chunks with
  | nil => intro w _; simp [SliceWriter.writeAll]
  | cons data more ih =>
    intro w hfits
    simp only [List.map_cons, List.sum_cons] at hfits
    have hnext : (more.map List.length).sum ≤ (w.rest.drop data.length).length := by
      simp only [List.length_drop]
      omega
    simp only [SliceWriter.writeAll, w.write_of_fits data (by omega)]
    rw [ih _ hnext]
    simp [List.drop_drop, Nat.add_comm]

/-! ## The slice reader -/

variable {ε β : Type}

@[simp] theorem except_ok_bind (a : α) (f : α → Except ε β) :
    (Except.ok a >>= f) = f a := rfl

@[simp] theorem except_error_bind (e : ε) (f : α → Except ε β) :
    (Except.error e >>= f) = Except.error e := rfl

theorem except_bind_eq_ok {x : Except ε α} {f : α → Except ε β} {b : β} :
    x >>= f = .ok b ↔ ∃ a, x = .ok a ∧ f a = .ok b := by
  cases x <;> simp

theorem except_map_eq_ok {f : α → β} {x : Except ε α} {b : β} :
    f <$> x = .ok b ↔ ∃ a, x = .ok a ∧ f a = b := by
  cases x <;> simp [Functor.map, Except.map]

/-- A computation that reads from a `&[u8]` slice and may fail. -/
abbrev Reader := StateT (List UInt8) (Except Error)

theorem reader_bind_apply (x : Reader α) (f : α → Reader β) (slice : List UInt8) :
    (x >>= f) slice = x slice >>= fun r => f r.1 r.2 := rfl

/-- `Read::read` for `&[u8]` into an `n`-byte buffer. -/
def read (n : Nat) : Reader (List UInt8) := fun slice =>
  if slice.length < n then .error (.badLength slice.length n)
  else .ok (slice.take n, slice.drop n)

/-- `DeserializableSlice::from_reader`: read `N` bytes, then `from_bytes`.
A short slice gives `bad_length(capacity, N)`, which is the reader's own
error. -/
def Serializable.fromReader (s : Serializable α) : Reader α := fun slice => do
  let (bytes, rest) ← read s.size slice
  let a ← s.fromBytes bytes
  pure (a, rest)

theorem read_append (bytes rest : List UInt8) :
    read bytes.length (bytes ++ rest) = .ok (bytes, rest) := by
  simp [read]

/-- Reading an encoding gives back its value and leaves the bytes after it. -/
theorem Serializable.fromReader_toBytes (s : Serializable α) (a : α)
    (hround : s.fromBytes (s.toBytes a) = .ok a) (rest : List UInt8) :
    s.fromReader (s.toBytes a ++ rest) = .ok (a, rest) := by
  rw [Serializable.fromReader, ← s.toBytes_length a, read_append]
  simp only [except_ok_bind, hround]
  rfl

/-- A successful `from_reader` consumed exactly `N` bytes, and `from_bytes`
accepted them. -/
theorem Serializable.fromReader_ok (s : Serializable α) {slice rest : List UInt8}
    {a : α} (h : s.fromReader slice = .ok (a, rest)) :
    ∃ bytes, slice = bytes ++ rest ∧ bytes.length = s.size ∧
      s.fromBytes bytes = .ok a := by
  simp only [Serializable.fromReader, read] at h
  split at h
  · cases h
  · rename_i hlen
    obtain ⟨b, hdec, hpure⟩ := except_bind_eq_ok.mp (by simpa only [except_ok_bind] using h)
    cases hpure
    exact ⟨slice.take s.size, (List.take_append_drop _ _).symm,
      List.length_take_of_le (by omega), hdec⟩

/-- Under a canonical codec, `from_reader` succeeds exactly on an encoding
that decodes, followed by anything. -/
theorem Serializable.fromReader_eq_ok_iff (s : Serializable α) (hcan : s.Canonical)
    {slice rest : List UInt8} {a : α} :
    s.fromReader slice = .ok (a, rest) ↔
      slice = s.toBytes a ++ rest ∧ s.fromBytes (s.toBytes a) = .ok a := by
  constructor
  · intro h
    obtain ⟨bytes, rfl, hlen, hdec⟩ := s.fromReader_ok h
    rw [hcan bytes a hlen hdec]
    exact ⟨rfl, hdec⟩
  · rintro ⟨rfl, hround⟩
    exact s.fromReader_toBytes a hround rest

/-- One `from_reader` step of a longer read, on a slice that starts with an
encoding. -/
theorem Serializable.bind_fromReader_toBytes (s : Serializable α) (f : α → Reader β)
    (a : α) (hround : s.fromBytes (s.toBytes a) = .ok a) (rest : List UInt8) :
    (s.fromReader >>= f) (s.toBytes a ++ rest) = f a rest := by
  rw [reader_bind_apply, s.fromReader_toBytes a hround]
  rfl

/-- One `from_reader` step of a longer read under a canonical codec: when
the whole read succeeds, the slice starts with an encoding and the rest of
the read succeeds on what follows it. -/
theorem Serializable.bind_fromReader_ok (s : Serializable α) (hcan : s.Canonical)
    {f : α → Reader β} {slice : List UInt8} {r : β × List UInt8}
    (h : (s.fromReader >>= f) slice = .ok r) :
    ∃ a rest, slice = s.toBytes a ++ rest ∧ f a rest = .ok r := by
  obtain ⟨⟨a, rest⟩, hread, hf⟩ :=
    except_bind_eq_ok.mp ((reader_bind_apply _ _ _).symm.trans h)
  exact ⟨a, rest, ((s.fromReader_eq_ok_iff hcan).mp hread).1, hf⟩

end Plonk.DuskBytes
