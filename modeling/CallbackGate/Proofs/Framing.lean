import CallbackGate.Cipher.Frame
import CallbackGate.Proofs.Chaining
import CallbackGate.Proofs.Utf8
import Mathlib.Algebra.Group.Nat.Defs
import Mathlib.Data.List.Induction
import Mathlib.Order.Bounds.Defs
import Mathlib.Tactic.SplitIfs

/-!
# Frames and what opens them

`Framed` says which bytes are a frame of a message for an account.  Opening
accepts exactly these, and what it makes of any other bytes depends on three
numbers: their length, the pad their last byte declares, and the length of the
message that their header declares.

There are five groups.

* Numbers in a header.  Bytes spell a number that fits and that is written as
  these bytes.
* Slices of a buffer.
* Lengths.  Padding fills up to the least multiple of the unit that has room for
  a pad (`isLeast_length_padded`).
* What a frame is.  The numbers that a frame declares are those it was made with.
* Opening.  `openFrame_cases` is the case analysis that the rest rests on;
  `openFrame_of_framed` and `framed_of_openFrame` say that it accepts the frames
  and nothing else.
-/

namespace CallbackGate

/-! ## Numbers in a header -/

namespace Bytes.BigEndian

/-- Bytes spell a number that fits their width. -/
theorem toNat_lt (bytes : List UInt8) : toNat bytes < 256 ^ bytes.length := by
  induction bytes using List.reverseRecOn with
  | nil => simp [toNat, extend]
  | append_singleton bytes byte ih =>
    have hbyte := byte.toNat_lt
    rw [toNat_append_singleton, List.length_append, List.length_singleton, Nat.pow_succ]
    omega

/-- A number that fits the width reads back. -/
theorem toNat_ofNat {width value : Nat} (h : value < 256 ^ width) :
    toNat (ofNat width value) = value := by
  induction width generalizing value with
  | zero => simp at h; simp [ofNat, toNat, extend, h]
  | succ width ih =>
    have hdiv : value / 256 < 256 ^ width := by
      rw [Nat.pow_succ] at h
      omega
    rw [ofNat, toNat_append_singleton, ih hdiv]
    simp
    omega

/-- The number that bytes spell is written as these bytes. -/
theorem ofNat_toNat {width : Nat} {bytes : List UInt8} (h : bytes.length = width) :
    ofNat width (toNat bytes) = bytes := by
  induction bytes using List.reverseRecOn generalizing width with
  | nil => rw [← h]; rfl
  | append_singleton bytes byte ih =>
    have hbyte := byte.toNat_lt
    rw [List.length_append, List.length_singleton] at h
    rw [← h, toNat_append_singleton, ofNat,
      show (toNat bytes * 256 + byte.toNat) / 256 = toNat bytes by omega, ih rfl]
    congr 2
    apply UInt8.toNat_inj.mp
    rw [UInt8.toNat_ofNat']
    omega

end Bytes.BigEndian

theorem Salt.eq_of_bytes {first second : Salt} (h : first.bytes = second.bytes) :
    first = second := by
  cases first
  cases second
  cases h
  rfl

namespace Cipher

/-! ## Slices -/

theorem length_slice (bytes : List UInt8) (first stop : Nat) :
    (slice bytes first stop).length = min stop bytes.length - first := by
  rw [slice, List.length_drop, List.length_take]

/-- The bytes between two others. -/
theorem slice_append (front middle back : List UInt8) :
    slice (front ++ middle ++ back) front.length (front.length + middle.length) =
      middle := by
  rw [slice, ← List.length_append, List.take_left, List.drop_left]

/-- The bytes at a known place between two others. -/
theorem slice_eq_of_append {bytes front middle back : List UInt8} {first stop : Nat}
    (hbytes : bytes = front ++ middle ++ back) (hfirst : front.length = first)
    (hstop : first + middle.length = stop) : slice bytes first stop = middle := by
  rw [hbytes, ← hstop, ← hfirst, slice_append]

/-- Slices that meet make one slice. -/
theorem slice_append_slice (bytes : List UInt8) {first between stop : Nat}
    (hfirst : first ≤ between) (hstop : between ≤ stop) :
    slice bytes first between ++ slice bytes between stop = slice bytes first stop := by
  have htake : bytes.take between = (bytes.take stop).take between := by
    rw [List.take_take, Nat.min_eq_left hstop]
  have hdrop : (bytes.take stop).drop between =
      ((bytes.take stop).drop first).drop (between - first) := by
    rw [List.drop_drop, show first + (between - first) = between by omega]
  rw [slice, slice, slice, htake, hdrop, List.drop_take, List.take_append_drop]

theorem slice_zero_length (bytes : List UInt8) : slice bytes 0 bytes.length = bytes := by
  rw [slice, List.take_length, List.drop_zero]

/-! ## Lengths -/

@[simp] theorem length_frameContent (salt : Salt) (message : List UInt8) (account : String) :
    (frameContent salt message account).length =
      20 + message.length + (Text.Utf8.bytes account).length := by
  have hsalt := salt.length_eq
  simp only [frameContent, List.length_append, Bytes.BigEndian.length_ofNat, hsalt]

/-- A pad holds one to thirty-two bytes. -/
theorem padLength_bounds (length : Nat) : 1 ≤ padLength length ∧ padLength length ≤ 32 := by
  unfold padLength frameUnit
  omega

theorem length_padded (content : List UInt8) :
    (padded content).length = content.length + padLength content.length := by
  rw [padded, List.length_append, List.length_replicate]

theorem length_padded_mod (content : List UInt8) : (padded content).length % 32 = 0 := by
  rw [length_padded]
  unfold padLength frameUnit
  omega

/-- Padding fills up to the next multiple of the unit; an aligned content gets
a whole unit more. -/
theorem isLeast_length_padded (content : List UInt8) :
    IsLeast {n | 32 ∣ n ∧ content.length < n} (padded content).length := by
  have hbounds := padLength_bounds content.length
  have hlength := length_padded content
  constructor
  · refine ⟨Nat.dvd_of_mod_eq_zero (length_padded_mod content), ?_⟩
    omega
  · intro n h
    obtain ⟨⟨count, hcount⟩, hlt⟩ := h
    rw [hlength]
    unfold padLength frameUnit
    omega

/-! ## What a frame is -/

/-- The number of bytes that the last byte declares as the pad. -/
def declaredPad (frame : List UInt8) : Nat :=
  (frame.getLastD 0).toNat

/-- The length of the message that the header declares. -/
def declaredLength (frame : List UInt8) : Nat :=
  Bytes.BigEndian.toNat (slice frame 16 headerLength)

/-- The bytes are a frame of a message for an account: the content, and then
one to thirty-two bytes, the last of which tells how many they are. -/
def Framed (salt : Salt) (message : List UInt8) (account : String)
    (frame : List UInt8) : Prop :=
  message.length < 2 ^ 32 ∧
    ∃ tail : List UInt8, frame = frameContent salt message account ++ tail ∧
      1 ≤ tail.length ∧ tail.length ≤ 32 ∧
      tail.getLast? = some (UInt8.ofNat tail.length)

/-- Padding a content makes a frame. -/
theorem framed_padded (salt : Salt) (account : String) {message : List UInt8}
    (h : message.length < 2 ^ 32) :
    Framed salt message account (padded (frameContent salt message account)) := by
  have hbounds := padLength_bounds (frameContent salt message account).length
  refine ⟨h, List.replicate _ _, rfl, ?_, ?_, ?_⟩
  · rw [List.length_replicate]
    exact hbounds.1
  · rw [List.length_replicate]
    exact hbounds.2
  · rw [List.getLast?_replicate, if_neg (by omega), List.length_replicate]

/-- Four bytes declare a length of less than 2 ^ 32. -/
theorem declaredLength_lt (frame : List UInt8) : declaredLength frame < 2 ^ 32 := by
  have hlength : (slice frame 16 headerLength).length ≤ 4 := by
    rw [length_slice, headerLength]
    omega
  have hbound := Bytes.BigEndian.toNat_lt (slice frame 16 headerLength)
  have hpow := Nat.pow_le_pow_right (show 0 < 256 by decide) hlength
  unfold declaredLength
  omega

namespace Framed

variable {salt : Salt} {message frame : List UInt8} {account : String}

theorem declaredPad_eq (h : Framed salt message account frame) :
    1 ≤ declaredPad frame ∧ declaredPad frame ≤ 32 ∧
      frame.length = 20 + message.length + (Text.Utf8.bytes account).length +
        declaredPad frame := by
  obtain ⟨-, tail, hframe, hpos, hle, hlast⟩ := h
  have hpad : declaredPad frame = tail.length := by
    rw [declaredPad, List.getLastD_eq_getLast?, hframe, List.getLast?_append, hlast]
    show (UInt8.ofNat tail.length).toNat = tail.length
    rw [UInt8.toNat_ofNat']
    omega
  rw [hpad, hframe, List.length_append, length_frameContent]
  exact ⟨hpos, hle, rfl⟩

theorem declaredLength_eq (h : Framed salt message account frame) :
    declaredLength frame = message.length := by
  obtain ⟨hlt, tail, hframe, -⟩ := h
  have hslice : slice frame 16 headerLength = Bytes.BigEndian.ofNat 4 message.length := by
    refine slice_eq_of_append
      (show frame = salt.bytes ++ Bytes.BigEndian.ofNat 4 message.length ++
        (message ++ Text.Utf8.bytes account ++ tail) from ?_) salt.length_eq ?_
    · rw [hframe, frameContent]
      simp only [List.append_assoc]
    · rw [Bytes.BigEndian.length_ofNat, headerLength]
  rw [declaredLength, hslice, Bytes.BigEndian.toNat_ofNat hlt]

theorem slice_salt (h : Framed salt message account frame) :
    slice frame 0 16 = salt.bytes := by
  obtain ⟨-, tail, hframe, -⟩ := h
  refine slice_eq_of_append
    (show frame = [] ++ salt.bytes ++ (Bytes.BigEndian.ofNat 4 message.length ++
      message ++ Text.Utf8.bytes account ++ tail) from ?_) rfl ?_
  · rw [hframe, frameContent]
    simp only [List.append_assoc, List.nil_append]
  · rw [salt.length_eq]

theorem slice_message (h : Framed salt message account frame) :
    slice frame 20 (20 + message.length) = message := by
  obtain ⟨-, tail, hframe, -⟩ := h
  refine slice_eq_of_append
    (show frame = (salt.bytes ++ Bytes.BigEndian.ofNat 4 message.length) ++ message ++
      (Text.Utf8.bytes account ++ tail) from ?_) ?_ rfl
  · rw [hframe, frameContent]
    simp only [List.append_assoc]
  · rw [List.length_append, salt.length_eq, Bytes.BigEndian.length_ofNat]

theorem slice_account (h : Framed salt message account frame) :
    slice frame (20 + message.length) (frame.length - declaredPad frame) =
      Text.Utf8.bytes account := by
  have hlength := h.declaredPad_eq.2.2
  obtain ⟨-, tail, hframe, -⟩ := h
  refine slice_eq_of_append (show frame = (salt.bytes ++
    Bytes.BigEndian.ofNat 4 message.length ++ message) ++ Text.Utf8.bytes account ++ tail
      from hframe) ?_ (by omega)
  rw [List.length_append, List.length_append, salt.length_eq, Bytes.BigEndian.length_ofNat]

end Framed

/-- Bytes whose declared numbers fit are a frame of what lies between them. -/
theorem framed_of_fits {frame : List UInt8} {salt : Salt} {account : String}
    (hsalt : salt.bytes = slice frame 0 16)
    (hpos : 1 ≤ declaredPad frame) (hle : declaredPad frame ≤ 32)
    (hfit : 20 + declaredLength frame ≤ frame.length - declaredPad frame)
    (haccount : slice frame (20 + declaredLength frame) (frame.length - declaredPad frame) =
      Text.Utf8.bytes account) :
    Framed salt (slice frame 20 (20 + declaredLength frame)) account frame := by
  have hlt := declaredLength_lt frame
  have hlength : (slice frame 20 (20 + declaredLength frame)).length =
      declaredLength frame := by
    rw [length_slice]
    omega
  have hheader : Bytes.BigEndian.ofNat 4 (declaredLength frame) =
      slice frame 16 headerLength :=
    Bytes.BigEndian.ofNat_toNat (by rw [length_slice, headerLength]; omega)
  have htail : (slice frame (frame.length - declaredPad frame) frame.length).length =
      declaredPad frame := by
    rw [length_slice]
    omega
  refine ⟨by omega, slice frame (frame.length - declaredPad frame) frame.length, ?_,
    by omega, by omega, ?_⟩
  · rw [frameContent, hlength, hheader, hsalt, ← haccount, headerLength,
      slice_append_slice frame (by omega) (by omega),
      slice_append_slice frame (by omega) (by omega),
      slice_append_slice frame (by omega) (by omega),
      slice_append_slice frame (by omega) (by omega), slice_zero_length]
  · have hlast : frame.getLast? = some (frame.getLastD 0) := by
      rw [List.getLastD_eq_getLast?]
      cases hframe : frame.getLast? with
      | none =>
        rw [List.getLast?_eq_none_iff] at hframe
        rw [hframe] at hfit
        simp at hfit
      | some byte => rfl
    rw [htail, slice, List.take_length, List.getLast?_drop, if_neg (by omega), hlast,
      declaredPad, UInt8.ofNat_toNat]

/-! ## Opening -/

theorem openFrame_eq (frame : List UInt8) (account : String) :
    openFrame frame account =
      if ¬(1 ≤ declaredPad frame ∧ declaredPad frame ≤ 32) then .error .invalidPadding
      else if frame.length - declaredPad frame < 20 then .error .corruptEnvelope
      else if frame.length - declaredPad frame < 20 + declaredLength frame then
        .error .corruptEnvelope
      else if slice frame (20 + declaredLength frame) (frame.length - declaredPad frame) ≠
          Text.Utf8.bytes account then .error .accountMismatch
      else match Salt.ofBytes? (slice frame 0 16) with
        | some salt => .ok ⟨salt, 20, 20 + declaredLength frame⟩
        | none => .error .corruptEnvelope :=
  rfl

/-- Opening ends in one of four ways, which the declared numbers and the bytes
of the account tell apart. -/
theorem openFrame_cases (frame : List UInt8) (account : String) :
    (¬(1 ≤ declaredPad frame ∧ declaredPad frame ≤ 32) ∧
      openFrame frame account = .error .invalidPadding) ∨
    (1 ≤ declaredPad frame ∧ declaredPad frame ≤ 32 ∧
      frame.length - declaredPad frame < 20 + declaredLength frame ∧
      openFrame frame account = .error .corruptEnvelope) ∨
    (1 ≤ declaredPad frame ∧ declaredPad frame ≤ 32 ∧
      20 + declaredLength frame ≤ frame.length - declaredPad frame ∧
      slice frame (20 + declaredLength frame) (frame.length - declaredPad frame) ≠
        Text.Utf8.bytes account ∧
      openFrame frame account = .error .accountMismatch) ∨
    (1 ≤ declaredPad frame ∧ declaredPad frame ≤ 32 ∧
      20 + declaredLength frame ≤ frame.length - declaredPad frame ∧
      slice frame (20 + declaredLength frame) (frame.length - declaredPad frame) =
        Text.Utf8.bytes account ∧
      ∃ salt : Salt, salt.bytes = slice frame 0 16 ∧
        openFrame frame account = .ok ⟨salt, 20, 20 + declaredLength frame⟩) := by
  rw [openFrame_eq]
  by_cases hpad : 1 ≤ declaredPad frame ∧ declaredPad frame ≤ 32
  · refine Or.inr ?_
    rw [if_neg (not_not.mpr hpad)]
    by_cases hlength : frame.length - declaredPad frame < 20 + declaredLength frame
    · refine Or.inl ⟨hpad.1, hpad.2, hlength, ?_⟩
      rw [if_pos hlength, ite_self]
    · refine Or.inr ?_
      rw [if_neg (by omega), if_neg hlength]
      by_cases haccount : slice frame (20 + declaredLength frame)
          (frame.length - declaredPad frame) = Text.Utf8.bytes account
      · -- The first sixteen bytes are there, so they make a salt.
        have hsalt : (slice frame 0 16).length = 16 := by
          rw [length_slice]
          omega
        refine Or.inr ⟨hpad.1, hpad.2, by omega, haccount, ⟨_, hsalt⟩, rfl, ?_⟩
        rw [if_neg (not_not.mpr haccount), Salt.ofBytes?, dif_pos hsalt]
      · refine Or.inl ⟨hpad.1, hpad.2, by omega, haccount, ?_⟩
        rw [if_pos haccount]
  · refine Or.inl ⟨hpad, ?_⟩
    rw [if_pos hpad]

/-- A frame is opened for its own account and for no other. -/
theorem openFrame_of_framed {salt : Salt} {message frame : List UInt8} {account : String}
    (h : Framed salt message account frame) (reader : String) :
    openFrame frame reader =
      if reader = account then .ok ⟨salt, 20, 20 + message.length⟩
      else .error .accountMismatch := by
  have hpad := h.declaredPad_eq
  have hlength := h.declaredLength_eq
  have haccount := h.slice_account
  rw [← hlength] at haccount
  rcases openFrame_cases frame reader with
    ⟨hno, -⟩ | ⟨-, -, hlt, -⟩ | ⟨-, -, -, hne, hopen⟩ | ⟨-, -, -, heq, other, hother, hopen⟩
  · omega
  · omega
  · rw [hopen, if_neg]
    intro h
    subst h
    exact hne haccount
  · have hsalt : other = salt := Salt.eq_of_bytes (hother.trans h.slice_salt)
    rw [hopen, hsalt, hlength, if_pos]
    exact Text.Utf8.bytes_inj (heq.symm.trans haccount)

/-- What opens is a frame of the message that the opening shows. -/
theorem framed_of_openFrame {frame : List UInt8} {account : String} {opening : Opening}
    (h : openFrame frame account = .ok opening) :
    opening.first = 20 ∧ opening.stop = 20 + declaredLength frame ∧
      Framed opening.salt (slice frame opening.first opening.stop) account frame := by
  rcases openFrame_cases frame account with
    ⟨-, hopen⟩ | ⟨-, -, -, hopen⟩ | ⟨-, -, -, -, hopen⟩ |
      ⟨hpos, hle, hfit, heq, salt, hsalt, hopen⟩
  · rw [h] at hopen
    cases hopen
  · rw [h] at hopen
    cases hopen
  · rw [h] at hopen
    cases hopen
  · rw [h, Except.ok.injEq] at hopen
    rw [hopen]
    exact ⟨rfl, rfl, framed_of_fits hsalt hpos hle hfit heq⟩

end Cipher

end CallbackGate
