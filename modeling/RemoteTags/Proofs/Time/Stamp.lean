import RemoteTags.Proofs.Text.Decimal
import RemoteTags.Proofs.Time.Calendar
import RemoteTags.Time.Stamp

/-! A stamp is read as it is written: each part of the reader takes what one part of the writer
has put, and leaves the rest. -/

namespace RemoteTags.Time
open Text

section Number

variable {ds rest : List Char}

theorem readNumber_digits {most : Nat} (nonempty : ds ≠ [])
    (digits : ∀ c ∈ ds, Decimal.isDigit c) (short : ds.length ≤ most)
    (ends : ((rest.take (most - ds.length)).takeWhile Decimal.isDigit) = []) :
    readNumber most (ds ++ rest) = some (Decimal.value ds, rest) := by
  have taken : ((ds ++ rest).take most).takeWhile Decimal.isDigit = ds := by
    rw [List.take_append, List.take_of_length_le short, List.takeWhile_append_of_pos digits, ends,
      List.append_nil]
  simp [readNumber, taken, nonempty]

theorem readField_padded {low high n : Nat} (least : low ≤ n) (most : n ≤ high)
    (fits : n < 100) (rest : List Char) :
    readField low high (Decimal.padded 2 n ++ rest) = some (n, rest) := by
  have length : (Decimal.padded 2 n).length = 2 := Decimal.length_padded (by decide) fits
  have digits : ∀ c ∈ Decimal.padded 2 n, Decimal.isDigit c :=
    fun c mem => Decimal.isDigit_of_mem_padded mem
  have nonempty := Decimal.padded_ne_nil 2 n
  rw [readField, Decimal.trimStart_digits nonempty digits,
    readNumber_digits nonempty digits (Nat.le_of_eq length) (by simp [length]),
    Decimal.value_padded]
  simp [least, most]

theorem readLongNumber_padded {n : Nat} (fits : n < 0x8000000000000000) (width : Nat)
    (rest : List Char) :
    readLongNumber (Decimal.padded width n ++ '-' :: rest) = some (n, '-' :: rest) := by
  rw [readLongNumber, readNumber_digits (Decimal.padded_ne_nil width n)
    (fun c mem => Decimal.isDigit_of_mem_padded mem) (by simp), Decimal.value_padded]
  · simp [fits]
  · rw [List.length_append, Nat.add_sub_cancel_left, List.length_cons, List.take_succ_cons]
    exact List.takeWhile_cons_of_neg (by decide)

end Number

theorem readYear_digits {ds : List Char} (nonempty : ds ≠ [])
    (digits : ∀ c ∈ ds, Decimal.isDigit c) (rest : List Char) :
    readYear (ds ++ rest) = (readNumber 4 (ds ++ rest)).map fun (n, rest) => ((n : Int), rest) := by
  rw [readYear, Decimal.trimStart_digits nonempty digits]
  cases ds with
  | nil => exact absurd rfl nonempty
  | cons c ds =>
    have digit := digits c List.mem_cons_self
    split
    · rename_i sign
      rw [(List.cons.inj sign).1] at digit
      exact absurd digit (by decide)
    · rename_i sign
      rw [(List.cons.inj sign).1] at digit
      exact absurd digit (by decide)
    · rfl

theorem readYear_yearText {y : Int} (fits : y.natAbs < 0x8000000000000000) (rest : List Char) :
    readYear (yearText y ++ '-' :: rest) = some (y, '-' :: rest) := by
  unfold yearText
  split
  · rename_i plain
    simp only [Bool.and_eq_true, decide_eq_true_eq] at plain
    have digits : ∀ c ∈ Decimal.padded 4 y.toNat, Decimal.isDigit c :=
      fun c mem => Decimal.isDigit_of_mem_padded mem
    have nonempty := Decimal.padded_ne_nil 4 y.toNat
    have length : (Decimal.padded 4 y.toNat).length = 4 :=
      Decimal.length_padded (by decide) (by omega)
    rw [readYear_digits nonempty digits,
      readNumber_digits nonempty digits (Nat.le_of_eq length) (by simp [length]),
      Decimal.value_padded]
    simp [plain.1]
  · rename_i signed
    simp only [Bool.and_eq_true, decide_eq_true_eq] at signed
    have read := readLongNumber_padded fits 4 rest
    split
    · have minus (s : List Char) : readYear ('-' :: s) =
          (readLongNumber s).map fun (n, rest) => (-(n : Int), rest) := rfl
      rw [List.cons_append, minus, read, Option.map_some, Option.some.injEq, Prod.mk.injEq]
      exact ⟨by omega, rfl⟩
    · have plus (s : List Char) : readYear ('+' :: s) =
          (readLongNumber s).map fun (n, rest) => ((n : Int), rest) := rfl
      rw [List.cons_append, plus, read, Option.map_some, Option.some.injEq, Prod.mk.injEq]
      exact ⟨by omega, rfl⟩

inductive Fraction : List Char → Prop where
  | none : Fraction []
  | digits {ds : List Char} (nonempty : ds ≠ []) (digits : ∀ c ∈ ds, Decimal.isDigit c) :
      Fraction ('.' :: ds)

theorem Fraction.skip {fraction : List Char} (f : Fraction fraction) (rest : List Char) :
    skipFraction (fraction ++ ' ' :: rest) = some (' ' :: rest) := by
  cases f with
  | none => rfl
  | @digits ds nonempty digits =>
    have dropped : (ds ++ ' ' :: rest).dropWhile Decimal.isDigit = ' ' :: rest := by
      rw [List.dropWhile_append_of_pos digits]
      exact List.dropWhile_cons_of_neg (by decide)
    have some_digit : 0 < ds.length := List.length_pos_iff.2 nonempty
    rw [List.cons_append, skipFraction, dropped, if_pos]
    simp
    omega

/-- A distance from universal time, less than a day. -/
structure Offset where
  west : Bool
  hours : Nat
  minutes : Nat
  hours_lt : hours < 24
  minutes_lt : minutes < 60

namespace Offset

def seconds (o : Offset) : Int :=
  let n : Int := (o.hours * 3600 + o.minutes * 60 : Nat)
  if o.west then -n else n

/-- `+hhmm` or `-hhmm`. -/
def text (o : Offset) : List Char :=
  (if o.west then '-' else '+') :: Decimal.padded 2 o.hours ++ Decimal.padded 2 o.minutes

theorem bounds (o : Offset) : -secondsPerDay < o.seconds ∧ o.seconds < secondsPerDay := by
  have := o.hours_lt
  have := o.minutes_lt
  unfold seconds secondsPerDay
  dsimp only
  split <;> omega

end Offset

theorem readPair_padded {n : Nat} (fits : n < 100) (rest : List Char) :
    readPair (Decimal.padded 2 n ++ rest) = some (n, rest) := by
  have length : (Decimal.padded 2 n).length = 2 := Decimal.length_padded (by decide) fits
  have digits : ∀ c ∈ Decimal.padded 2 n, Decimal.isDigit c :=
    fun c mem => Decimal.isDigit_of_mem_padded mem
  have value := Decimal.value_padded 2 n
  match pair : Decimal.padded 2 n, length with
  | [a, b], _ =>
    rw [pair] at digits value
    simp only [List.cons_append, List.nil_append, readPair, digits a (by simp), digits b (by simp),
      Bool.and_self, if_true, value]

theorem readOffset_text (o : Offset) : readOffset (' ' :: o.text) = some (o.seconds, []) := by
  have trimmed : trimStart (' ' :: o.text) = o.text := by
    unfold Offset.text
    cases o.west <;> rfl
  have sign : readSign o.text =
      some (o.west, Decimal.padded 2 o.hours ++ Decimal.padded 2 o.minutes) := by
    unfold Offset.text
    cases o.west <;> rfl
  have hours : o.hours < 100 := Nat.lt_trans o.hours_lt (by decide)
  have minutes : o.minutes < 100 := Nat.lt_trans o.minutes_lt (by decide)
  have undivided : (Decimal.padded 2 o.minutes).dropWhile (fun c => c = ':' || isBlank c) =
      Decimal.padded 2 o.minutes := by
    match pair : Decimal.padded 2 o.minutes, Decimal.padded_ne_nil 2 o.minutes with
    | c :: ds, _ =>
      have digit : Decimal.isDigit c :=
        Decimal.isDigit_of_mem_padded (by rw [pair]; exact List.mem_cons_self)
      have colon : c ≠ ':' := by
        rintro rfl
        exact absurd digit (by decide)
      exact List.dropWhile_cons_of_neg (by simp [colon, Decimal.isBlank_of_isDigit digit])
  have last := readPair_padded minutes []
  rw [List.append_nil] at last
  rw [readOffset, trimmed, sign]
  simp only [Option.bind_eq_bind, Option.bind_some, readPair_padded hours, undivided, last,
    Nat.not_le.2 o.minutes_lt, if_false]
  rfl

def Moment.text (m : Moment) (fraction : List Char) (o : Offset) : List Char :=
  m.minuteText ++ ':' :: Decimal.padded 2 m.second ++ fraction ++ ' ' :: o.text

theorem stampText_eq (m : Moment) :
    m.stampText ++ " +0000".toList =
      m.text ('.' :: List.replicate 9 '0') ⟨false, 0, 0, by decide, by decide⟩ := by
  simp [Moment.stampText, Moment.text, Offset.text]
  rfl

structure Compact (s : List Char) : Prop where
  nonempty : s ≠ []
  oneLine : '\n' ∉ s
  start : ∀ c ∈ s.head?, isBlank c = false
  ending : ∀ c ∈ s.getLast?, isBlank c = false

theorem yearText_start (y : Int) : ∃ c ∈ (yearText y).head?, isBlank c = false := by
  unfold yearText
  split
  · match written : Decimal.padded 4 y.toNat, Decimal.padded_ne_nil 4 y.toNat with
    | c :: t, _ =>
      exact ⟨c, rfl, Decimal.isBlank_of_isDigit
        (Decimal.isDigit_of_mem_padded (written ▸ List.mem_cons_self))⟩
  · exact ⟨_, rfl, by split <;> decide⟩

theorem compact_text (m : Moment) {fraction : List Char} (f : Fraction fraction) (o : Offset) :
    Compact (m.text fraction o) := by
  have plain (width n : Nat) : '\n' ∉ Decimal.padded width n :=
    fun mem => absurd (Decimal.isDigit_of_mem_padded mem) (by decide)
  constructor
  · simp [Moment.text]
  · have year : '\n' ∉ yearText m.date.year := by
      unfold yearText
      split
      · exact plain _ _
      · split <;> simp [plain]
    have inside : '\n' ∉ fraction := by
      cases f with
      | none => exact List.not_mem_nil
      | digits _ digits =>
        have : '\n' ∉ _ := fun mem => absurd (digits '\n' mem) (by decide)
        simpa using this
    have offset : '\n' ∉ o.text := by
      unfold Offset.text
      split <;> simp [plain]
    simp [Moment.text, Moment.minuteText, dateText, plain, year, inside, offset]
  · intro c first
    obtain ⟨d, year, blank⟩ := yearText_start m.date.year
    rw [Option.mem_def] at year
    simp only [Moment.text, Moment.minuteText, dateText, List.head?_append, year, Option.some_or,
      Option.mem_some_iff] at first
    exact first ▸ blank
  · intro c last
    have nonempty := Decimal.padded_ne_nil 2 o.minutes
    have shape : m.text fraction o = m.minuteText ++ ':' :: Decimal.padded 2 m.second ++ fraction ++
        ' ' :: (if o.west then '-' else '+') :: Decimal.padded 2 o.hours ++
          Decimal.padded 2 o.minutes := by
      simp [Moment.text, Offset.text]
    rw [shape, List.getLast?_append, List.getLast?_eq_some_getLast nonempty, Option.some_or,
      Option.mem_some_iff] at last
    exact Decimal.isBlank_of_isDigit
      (Decimal.isDigit_of_mem_padded (last ▸ List.getLast_mem nonempty))

theorem bind_of_eq {α β : Type} {x : Option α} {a : α} {f : α → Option β} {r : Option β}
    (read : x = some a) (rest : f a = r) : (x >>= f) = r := by
  rw [read]
  exact rest

theorem readStamp_text {m : Moment} (valid : m.Valid) {fraction : List Char} (f : Fraction fraction)
    (o : Offset) :
    readStamp (m.text fraction o) =
      if isRepresentable ((m.seconds - o.seconds) / secondsPerDay) then
        some (m.seconds - o.seconds) else none := by
  have text : m.text fraction o =
      yearText m.date.year ++ '-' :: (Decimal.padded 2 m.date.month ++ '-' ::
        (Decimal.padded 2 m.date.day ++ ' ' :: (Decimal.padded 2 m.hour ++ ':' ::
          (Decimal.padded 2 m.minute ++ ':' :: (Decimal.padded 2 m.second ++
            (fraction ++ ' ' :: o.text)))))) := by
    simp [Moment.text, Moment.minuteText, dateText]
  have year : m.date.year.natAbs < 0x8000000000000000 := by
    have := valid.first
    have := valid.last
    unfold firstYear lastYear at *
    omega
  have date := valid.date
  simp only [Date.isValid, Bool.and_eq_true, decide_eq_true_eq] at date
  obtain ⟨⟨⟨january, december⟩, first⟩, last⟩ := date
  have short : m.date.day ≤ 31 := Nat.le_trans last (daysInMonth_le ..)
  have hour := valid.hour
  have minute := valid.minute
  have second := valid.second
  have after (c : Char) (s : List Char) : afterStart [c] (c :: s) = some s :=
    afterStart_append [c] s
  have clock (rest : List Char) : readField 0 23
      (trimStart (' ' :: (Decimal.padded 2 m.hour ++ rest))) = some (m.hour, rest) := by
    have blank (s : List Char) : trimStart (' ' :: s) = trimStart s := rfl
    rw [blank, Decimal.trimStart_digits (Decimal.padded_ne_nil 2 m.hour)
      fun c mem => Decimal.isDigit_of_mem_padded mem]
    exact readField_padded (Nat.zero_le _) (Nat.le_sub_one_of_lt hour) (by omega) rest
  rw [text, readStamp]
  refine bind_of_eq (readYear_yearText year _) ?_
  refine bind_of_eq (after '-' _) ?_
  refine bind_of_eq (readField_padded january december (by omega) _) ?_
  refine bind_of_eq (after '-' _) ?_
  refine bind_of_eq (readField_padded first short (by omega) _) ?_
  refine bind_of_eq (clock _) ?_
  refine bind_of_eq (after ':' _) ?_
  refine bind_of_eq (readField_padded (Nat.zero_le _) (Nat.le_sub_one_of_lt minute) (by omega) _) ?_
  refine bind_of_eq (after ':' _) ?_
  refine bind_of_eq (readField_padded (Nat.zero_le _) (Nat.le_of_lt second) (by omega) _) ?_
  refine bind_of_eq (f.skip _) ?_
  refine bind_of_eq (readOffset_text o) ?_
  simp only [Nat.min_eq_left (Nat.le_sub_one_of_lt second)]
  have right : (⟨m.date.year, m.date.month, m.date.day⟩ : Date).isValid = true := valid.date
  simp [valid.first, valid.last, right, o.bounds]

end RemoteTags.Time
