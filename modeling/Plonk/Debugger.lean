import Mathlib

/-!
`Debugger`, the CDF event writer of `debugger.rs`. It records every witness
and every constraint the runtime appends, with the place in the caller's code
that appended it, and when the proof is finished it encodes both lists. For
each constraint the encoding carries whether the arithmetic part of its gate
equation, `q_m a b + q_l a + q_r b + q_o c + q_f d + q_c + pi`, vanishes on
the recorded values.

The encoder looks a wire's value up at the position of the wire's witness
index in its own list. `run_witnesses` says what that list is after any run;
`encodeConstraints_evaluation` says the lookup finds the value appended with
that witness, so that the flag is the gate equation on the appended values,
on every run whose witnesses arrive in index order. Locating the caller
(`backtrace`) and writing the file are effects: the caller's location is an
input of each event here, and so is `encoder`, the file system's answer to a
write; `writeOutput` returns the file written, or the line printed in its
place. `writeOutput_eq_file_iff` says a file is written exactly when
`CDF_OUTPUT` reads and the encoder succeeds. `outputs` collects what a run
leaves behind; `outputs_new` says it is one outcome per `ProofFinished`
event, computed from the witnesses and constraints appended before it.
-/

namespace Plonk

/-- `composer::Witness`, not among the sources: the debugger reads only its
index. -/
structure Witness where
  index : Nat
  deriving DecidableEq, Repr

/-- `composer::Selector`, not among the sources: the selectors whose
coefficients the debugger reads. -/
inductive Selector
  | multiplication
  | left
  | right
  | output
  | fourth
  | constant
  | publicInput
  | arithmetic
  | logic
  | range
  | groupAddVariableBase
  | groupAddFixedBase
  deriving DecidableEq, Repr

/-- `composer::WiredWitness`, the four wires of a gate. -/
inductive WiredWitness
  | a
  | b
  | c
  | d
  deriving DecidableEq, Repr

/-- `composer::Constraint`, not among the sources, through the two accessors
the debugger calls. -/
structure Constraint (F : Type) where
  coeff : Selector → F
  witness : WiredWitness → Witness

/-- `RuntimeEvent`, not among the sources: the three events the debugger
handles. -/
inductive RuntimeEvent (F : Type)
  | witnessAppended (w : Witness) (v : F)
  | constraintAppended (c : Constraint F)
  | proofFinished

/-- `dusk_cdf::EncodableSource`: the caller's file, line and column. -/
structure EncodableSource where
  line : Nat
  col : Nat
  path : String
  deriving DecidableEq, Repr

/-- `dusk_cdf::EncodableWitness`. -/
structure EncodableWitness (F : Type) where
  id : Nat
  value : F
  source : EncodableSource

/-- `dusk_cdf::Selectors`. The crate stores each coefficient as its bytes;
here it is the scalar. -/
structure Selectors (F : Type) where
  qm : F
  ql : F
  qr : F
  qo : F
  qd : F
  qc : F
  pi : F
  qarith : F
  qlogic : F
  qrange : F
  qgroupVariable : F
  qfixedAdd : F

/-- `dusk_cdf::WiredWitnesses`, the witness indices of the four wires. -/
structure WiredWitnesses where
  a : Nat
  b : Nat
  o : Nat
  d : Nat

/-- `dusk_cdf::Polynomial`: a constraint's selectors, wires, and whether its
equation holds. -/
structure CdfPolynomial (F : Type) where
  selectors : Selectors F
  witnesses : WiredWitnesses
  evaluation : Bool

/-- `dusk_cdf::EncodableConstraint`. -/
structure EncodableConstraint (F : Type) where
  id : Nat
  polynomial : CdfPolynomial F
  source : EncodableSource

/-- `std::env::VarError`, the two ways reading `CDF_OUTPUT` fails. -/
inductive VarError
  | notPresent
  | notUnicode
  deriving DecidableEq, Repr

/-- What `write_output` leaves behind: the CDF file at a path, holding the
encoded witnesses and constraints, or a line on standard error. -/
inductive Output (F : Type)
  | file (path : String) (witnesses : List (EncodableWitness F))
      (constraints : List (EncodableConstraint F))
  | stderr (line : String)

/-- `Config::load`, then `Encoder::init_file` on the path with the encoded
witnesses and constraints, then `write_all`: what the file system makes of
one write, `Ok` when the file is written, else the error's display. -/
abbrev Encoder (F : Type) :=
  String → List (EncodableWitness F) → List (EncodableConstraint F) → Except String Unit

/-- `Debugger`: the witnesses and the constraints appended so far, each with
its caller. -/
structure Debugger (F : Type) where
  witnesses : List (EncodableSource × Witness × F)
  constraints : List (EncodableSource × Constraint F)

namespace Debugger

variable {F : Type} [CommRing F] [DecidableEq F]

omit [CommRing F] [DecidableEq F] in
/-- `Debugger::new`. -/
def new : Debugger F := ⟨[], []⟩

omit [DecidableEq F] in
/-- The value at position `i` of the witness list, `0` past its end
(`get(i).map(..).unwrap_or_default()`). -/
def witnessValue (d : Debugger F) (i : Nat) : F :=
  ((d.witnesses.get? i).map fun (_, _, v) => v).getD 0

omit [CommRing F] [DecidableEq F] in
/-- The witnesses of `write_output`. -/
def encodeWitnesses (d : Debugger F) : List (EncodableWitness F) :=
  d.witnesses.map fun (source, w, value) => ⟨w.index, value, source⟩

/-- One constraint of `write_output`. -/
def encodeConstraint (d : Debugger F) (id : Nat) (source : EncodableSource)
    (constraint : Constraint F) : EncodableConstraint F :=
  let qm := constraint.coeff .multiplication
  let ql := constraint.coeff .left
  let qr := constraint.coeff .right
  let qo := constraint.coeff .output
  let qf := constraint.coeff .fourth
  let qc := constraint.coeff .constant
  let pi := constraint.coeff .publicInput
  let qarith := constraint.coeff .arithmetic
  let qlogic := constraint.coeff .logic
  let qrange := constraint.coeff .range
  let qgroupVariable := constraint.coeff .groupAddVariableBase
  let qfixedAdd := constraint.coeff .groupAddFixedBase
  let witnesses : WiredWitnesses :=
    ⟨(constraint.witness .a).index, (constraint.witness .b).index,
      (constraint.witness .c).index, (constraint.witness .d).index⟩
  let wa := d.witnessValue witnesses.a
  let wb := d.witnessValue witnesses.b
  let wc := d.witnessValue witnesses.o
  let wd := d.witnessValue witnesses.d
  let evaluation := qm * wa * wb + ql * wa + qr * wb + qo * wc + qf * wd + qc + pi
  let evaluation := decide (evaluation = 0)
  let selectors : Selectors F :=
    ⟨qm, ql, qr, qo, qf, qc, pi, qarith, qlogic, qrange, qgroupVariable, qfixedAdd⟩
  ⟨id, ⟨selectors, witnesses, evaluation⟩, source⟩

/-- The constraints of `write_output`, numbered in order. -/
def encodeConstraints (d : Debugger F) : List (EncodableConstraint F) :=
  d.constraints.enum.map fun (id, source, constraint) => d.encodeConstraint id source constraint

/-- `write_output`: nothing when `CDF_OUTPUT` is not present, a message when
it is not unicode, and otherwise the file the encoder writes, or the message
the crate prints when `Config::load`, `Encoder::init_file` or `write_all`
fails, in which case no file is written. -/
def writeOutput (d : Debugger F) (cdfOutput : Except VarError String) (encoder : Encoder F) :
    Option (Output F) :=
  match cdfOutput with
  | .error .notPresent => none
  | .error .notUnicode => some (.stderr "the provided `CDF_OUTPUT` isn\x27t valid unicode")
  | .ok path =>
    let witnesses := d.encodeWitnesses
    let constraints := d.encodeConstraints
    match encoder path witnesses constraints with
    | .ok () => some (.file path witnesses constraints)
    | .error e => some (.stderr ("failed to output CDF file to \x27" ++ path ++ "\x27: " ++ e))

/-- The debugger writes a file only when `CDF_OUTPUT` holds its path and the
encoder succeeds on the encoded lists, and the file holds exactly those. -/
theorem writeOutput_eq_file_iff (d : Debugger F) (cdfOutput : Except VarError String)
    (encoder : Encoder F) (path : String) (witnesses : List (EncodableWitness F))
    (constraints : List (EncodableConstraint F)) :
    d.writeOutput cdfOutput encoder = some (.file path witnesses constraints) ↔
      cdfOutput = .ok path ∧ witnesses = d.encodeWitnesses ∧
        constraints = d.encodeConstraints ∧ encoder path witnesses constraints = .ok () := by
  rcases cdfOutput with (_ | _) | path'
  · simp [writeOutput]
  · simp [writeOutput]
  · rcases hwrite : encoder path' d.encodeWitnesses d.encodeConstraints with e | ⟨⟩
    · simp only [writeOutput, hwrite, Option.some.injEq, reduceCtorEq, false_iff]
      rintro ⟨⟨⟩, rfl, rfl, h⟩
      simp [hwrite] at h
    · simp only [writeOutput, hwrite, Option.some.injEq, Output.file.injEq, Except.ok.injEq]
      constructor
      · rintro ⟨rfl, rfl, rfl⟩
        exact ⟨rfl, rfl, rfl, hwrite⟩
      · rintro ⟨rfl, rfl, rfl, -⟩
        exact ⟨rfl, rfl, rfl⟩

/-- `Debugger::event`, with `caller` the location `resolve_caller` finds,
`cdfOutput` the value of `CDF_OUTPUT` and `encoder` the file system's answer
to a write: the new state, and what `write_output` leaves behind. -/
def event (d : Debugger F) (caller : EncodableSource) (cdfOutput : Except VarError String)
    (encoder : Encoder F) : RuntimeEvent F → Debugger F × Option (Output F)
  | .witnessAppended w v => (⟨d.witnesses ++ [(caller, w, v)], d.constraints⟩, none)
  | .constraintAppended c => (⟨d.witnesses, d.constraints ++ [(caller, c)]⟩, none)
  | .proofFinished => (d, d.writeOutput cdfOutput encoder)

/-- The state after a sequence of events, each with its caller. -/
def run (d : Debugger F) (cdfOutput : Except VarError String) (encoder : Encoder F) :
    List (EncodableSource × RuntimeEvent F) → Debugger F
  | [] => d
  | (caller, ev) :: events => (d.event caller cdfOutput encoder ev).1.run cdfOutput encoder events

omit [CommRing F] [DecidableEq F] in
/-- The witness events of a run, with their callers, in order. -/
def witnessEvents :
    List (EncodableSource × RuntimeEvent F) → List (EncodableSource × Witness × F)
  | [] => []
  | (caller, .witnessAppended w v) :: events => (caller, w, v) :: witnessEvents events
  | _ :: events => witnessEvents events

omit [CommRing F] [DecidableEq F] in
/-- The constraint events of a run, with their callers, in order. -/
def constraintEvents :
    List (EncodableSource × RuntimeEvent F) → List (EncodableSource × Constraint F)
  | [] => []
  | (caller, .constraintAppended c) :: events => (caller, c) :: constraintEvents events
  | _ :: events => constraintEvents events

/-- The debugger records every witness, in the order of the run. -/
theorem run_witnesses (d : Debugger F) (cdfOutput : Except VarError String)
    (encoder : Encoder F) :
    ∀ events, (d.run cdfOutput encoder events).witnesses = d.witnesses ++ witnessEvents events
  | [] => by simp [run, witnessEvents]
  | (caller, .witnessAppended w v) :: events => by
    simp [run, event, witnessEvents, run_witnesses _ cdfOutput encoder events]
  | (caller, .constraintAppended c) :: events => by
    simp [run, event, witnessEvents, run_witnesses _ cdfOutput encoder events]
  | (caller, .proofFinished) :: events => by
    simp [run, event, witnessEvents, run_witnesses _ cdfOutput encoder events]

/-- The debugger records every constraint, in the order of the run. -/
theorem run_constraints (d : Debugger F) (cdfOutput : Except VarError String)
    (encoder : Encoder F) :
    ∀ events, (d.run cdfOutput encoder events).constraints = d.constraints ++ constraintEvents events
  | [] => by simp [run, constraintEvents]
  | (caller, .witnessAppended w v) :: events => by
    simp [run, event, constraintEvents, run_constraints _ cdfOutput encoder events]
  | (caller, .constraintAppended c) :: events => by
    simp [run, event, constraintEvents, run_constraints _ cdfOutput encoder events]
  | (caller, .proofFinished) :: events => by
    simp [run, event, constraintEvents, run_constraints _ cdfOutput encoder events]

/-- A run from `new` holds the witnesses and the constraints of its events. -/
theorem run_new (cdfOutput : Except VarError String) (encoder : Encoder F)
    (events : List (EncodableSource × RuntimeEvent F)) :
    (new : Debugger F).run cdfOutput encoder events =
      ⟨witnessEvents events, constraintEvents events⟩ := by
  have hw := run_witnesses new cdfOutput encoder events
  have hc := run_constraints new cdfOutput encoder events
  rw [new, List.nil_append] at hw hc
  rw [← hw, ← hc]
  rfl

omit [DecidableEq F] in
/-- The value appended with witness `w`, the first time it was; `0` if it
never was. -/
def appendedValue (witnesses : List (EncodableSource × Witness × F)) (w : Witness) : F :=
  ((witnesses.find? fun (_, w', _) => decide (w' = w)).map fun (_, _, v) => v).getD 0

omit [CommRing F] [DecidableEq F] in
/-- In a list whose witness indices count up from `s`, the first entry of
witness `s + i` is the one at position `i`. -/
private theorem find?_witness_of_dense :
    ∀ (ws : List (EncodableSource × Witness × F)) (s : Nat),
      ws.map (fun x => x.2.1.index) = List.range' s ws.length →
      ∀ i, ws.find? (fun x => decide (x.2.1 = ⟨s + i⟩)) = ws[i]?
  | [], _, _, _ => rfl
  | x :: rest, s, hdense, i => by
    rw [List.length_cons, List.range'_succ, List.map_cons, List.cons.injEq] at hdense
    have hx : x.2.1 = ⟨s⟩ := by rw [← hdense.1]
    cases i with
    | zero => simp [hx]
    | succ j =>
      have hne : x.2.1 ≠ ⟨s + (j + 1)⟩ := by rw [hx]; simp
      rw [List.find?_cons_of_neg _ (by simpa using hne), List.getElem?_cons_succ,
        ← find?_witness_of_dense rest (s + 1) hdense.2 j]
      simp only [Nat.add_assoc, Nat.add_comm 1 j]

omit [DecidableEq F] in
/-- While the witness list is in index order, the value at position `i` is
the value appended with witness `i`. -/
theorem witnessValue_eq_appendedValue (d : Debugger F)
    (hdense : d.witnesses.map (fun x => x.2.1.index) = List.range d.witnesses.length) (i : Nat) :
    d.witnessValue i = appendedValue d.witnesses ⟨i⟩ := by
  have h := find?_witness_of_dense d.witnesses 0 (by rwa [← List.range_eq_range']) i
  rw [witnessValue, appendedValue, List.get?_eq_getElem?, ← h, Nat.zero_add]

/-- On a run from `new` whose witnesses arrive in index order, the flag of
every encoded constraint says whether the arithmetic gate equation holds on
the values appended with its four wires. -/
theorem encodeConstraints_evaluation (cdfOutput : Except VarError String)
    (encoder : Encoder F) (events : List (EncodableSource × RuntimeEvent F))
    (hdense : (witnessEvents events).map (fun x => x.2.1.index) =
      List.range (witnessEvents events).length) :
    ((new : Debugger F).run cdfOutput encoder events).encodeConstraints.map
        (fun e => e.polynomial.evaluation) =
      (constraintEvents events).map fun (_, c) =>
        let value := fun wire => appendedValue (witnessEvents events) (c.witness wire)
        decide (c.coeff .multiplication * value .a * value .b + c.coeff .left * value .a +
          c.coeff .right * value .b + c.coeff .output * value .c + c.coeff .fourth * value .d +
          c.coeff .constant + c.coeff .publicInput = 0) := by
  have hvalue : ∀ w : Witness,
      (⟨witnessEvents events, constraintEvents events⟩ : Debugger F).witnessValue w.index =
        appendedValue (witnessEvents events) w :=
    fun w => witnessValue_eq_appendedValue _ hdense w.index
  rw [run_new, encodeConstraints, List.map_map]
  conv_rhs => rw [← List.enum_map_snd (constraintEvents events), List.map_map]
  refine List.map_congr_left ?_
  rintro ⟨id, source, c⟩ -
  simp only [Function.comp, encodeConstraint, hvalue]

/-- Three witnesses appended in index order, then the gate `a b - c = 0` on
witnesses `1, 0, 2` (`3 · 5 - 15`), which holds, and `a - 14 = 0` on witness
`2`, which does not: the flags are read at the wires' own witnesses. -/
theorem encodeConstraints_evaluation_threeWitnesses :
    let caller : EncodableSource := ⟨1, 1, "main.rs"⟩
    let product : Constraint ℤ :=
      ⟨fun s => if s = .multiplication then 1 else if s = .output then -1 else 0,
        fun wire => if wire = .a then ⟨1⟩ else if wire = .c then ⟨2⟩ else ⟨0⟩⟩
    let offset : Constraint ℤ :=
      ⟨fun s => if s = .left then 1 else if s = .constant then -14 else 0, fun _ => ⟨2⟩⟩
    let events : List (EncodableSource × RuntimeEvent ℤ) :=
      [(caller, .witnessAppended ⟨0⟩ 5), (caller, .witnessAppended ⟨1⟩ 3),
        (caller, .witnessAppended ⟨2⟩ 15), (caller, .constraintAppended product),
        (caller, .constraintAppended offset)]
    let encoder : Encoder ℤ := fun _ _ _ => .ok ()
    (witnessEvents events).map (fun x => x.2.1.index) =
        List.range (witnessEvents events).length ∧
      ((new : Debugger ℤ).run (.ok "out.cdf") encoder events).encodeConstraints.map
          (fun e => e.polynomial.evaluation) =
        (constraintEvents events).map fun (_, c) =>
          let value := fun wire => appendedValue (witnessEvents events) (c.witness wire)
          decide (c.coeff .multiplication * value .a * value .b + c.coeff .left * value .a +
            c.coeff .right * value .b + c.coeff .output * value .c + c.coeff .fourth * value .d +
            c.coeff .constant + c.coeff .publicInput = 0) := by
  intro caller product offset events encoder
  have hdense : (witnessEvents events).map (fun x => x.2.1.index) =
      List.range (witnessEvents events).length := rfl
  exact ⟨hdense, encodeConstraints_evaluation (.ok "out.cdf") encoder events hdense⟩

example : ((new : Debugger ℤ).run (.ok "out.cdf") (fun _ _ _ => .ok ())
    [(⟨1, 1, "main.rs"⟩, .witnessAppended ⟨0⟩ 5), (⟨1, 1, "main.rs"⟩, .witnessAppended ⟨1⟩ 3),
      (⟨1, 1, "main.rs"⟩, .witnessAppended ⟨2⟩ 15),
      (⟨1, 1, "main.rs"⟩, .constraintAppended
        ⟨fun s => if s = .multiplication then 1 else if s = .output then -1 else 0,
          fun wire => if wire = .a then ⟨1⟩ else if wire = .c then ⟨2⟩ else ⟨0⟩⟩),
      (⟨1, 1, "main.rs"⟩, .constraintAppended
        ⟨fun s => if s = .left then 1 else if s = .constant then -14 else 0, fun _ => ⟨2⟩⟩)]
    ).encodeConstraints.map (fun e => e.polynomial.evaluation) = [true, false] := by decide

end Debugger

end Plonk
