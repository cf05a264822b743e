import Mathlib.Computability.Language

/-! # Formats that are read by offset

A format is a language, put together from parts. A reader goes through the data with an
offset: `Reads language data start stop` says that a word of the language stands in the data
from `start` to `stop`. Each way to put formats together has a lemma that says what a reader
of the whole has to check.
-/

namespace SignalPurple

open scoped Computability

section ByteGrammar

variable {α : Type*}

/-! ## Parts of a format -/

def exactly (length : Nat) : Language α := {word | word.length = length}

def symbol (first : α) : Language α := {word | word = [first]}

/-- A first symbol that decides what follows. -/
def headed (rest : α → Language α) : Language α :=
  {word | ∃ first later, word = first :: later ∧ later ∈ rest first}

/-- The language if the condition holds, and no word otherwise. -/
def given (condition : Prop) (language : Language α) : Language α :=
  {word | condition ∧ word ∈ language}

/-- A 16-bit number, low byte first, that decides what follows. -/
def u16Headed (rest : Nat → Language UInt8) : Language UInt8 :=
  headed fun low => headed fun high => rest (low.toNat + 256 * high.toNat)

/-! ## Reading a part -/

/-- A word of the language stands in the data from `start` to `stop`. -/
def Reads (language : Language α) (data : List α) (start stop : Nat) : Prop :=
  ∃ word ∈ language, ∃ before after, data = before ++ (word ++ after) ∧
    before.length = start ∧ stop = start + word.length

variable {data : List α} {start stop : Nat}

theorem Reads.start_le {language : Language α} (reads : Reads language data start stop) :
    start ≤ stop := by
  obtain ⟨word, _, before, after, _, _, rfl⟩ := reads
  exact Nat.le_add_right start _

theorem Reads.stop_le {language : Language α} (reads : Reads language data start stop) :
    stop ≤ data.length := by
  obtain ⟨word, _, before, after, rfl, rfl, rfl⟩ := reads
  simp only [List.length_append]
  omega

theorem reads_one :
    Reads (1 : Language α) data start stop ↔ stop = start ∧ start ≤ data.length := by
  constructor
  · rintro ⟨word, empty, before, after, rfl, rfl, rfl⟩
    obtain rfl := (Language.mem_one word).mp empty
    simp
  · rintro ⟨rfl, within⟩
    refine ⟨[], Language.nil_mem_one, data.take stop, data.drop stop, ?_, ?_, rfl⟩
    · simp
    · simpa using within

theorem reads_mul {first second : Language α} :
    Reads (first * second) data start stop ↔
      ∃ middle, Reads first data start middle ∧ Reads second data middle stop := by
  constructor
  · rintro ⟨word, product, before, after, rfl, rfl, rfl⟩
    obtain ⟨left, inFirst, right, inSecond, rfl⟩ := Language.mem_mul.mp product
    refine ⟨before.length + left.length,
      ⟨left, inFirst, before, right ++ after, by simp, rfl, rfl⟩,
      right, inSecond, before ++ left, after, by simp, by simp, ?_⟩
    simp only [List.length_append]
    omega
  · rintro ⟨middle, ⟨left, inFirst, before, after, split, rfl, rfl⟩,
      right, inSecond, whole, rest, same, length, rfl⟩
    have same' : before ++ left ++ after = whole ++ (right ++ rest) := by
      rw [← same, split, List.append_assoc]
    obtain ⟨rfl, rfl⟩ := List.append_inj same' (by simpa using length.symm)
    refine ⟨left ++ right, Language.append_mem_mul inFirst inSecond, before, rest, ?_, rfl, ?_⟩
    · rw [split, List.append_assoc]
    · simp only [List.length_append]
      omega

theorem reads_add {first second : Language α} :
    Reads (first + second) data start stop ↔
      Reads first data start stop ∨ Reads second data start stop := by
  simp only [Reads, Language.mem_add, or_and_right, exists_or]

theorem reads_given {condition : Prop} {language : Language α} :
    Reads (given condition language) data start stop ↔
      condition ∧ Reads language data start stop := by
  constructor
  · rintro ⟨word, ⟨holds, member⟩, place⟩
    exact ⟨holds, word, member, place⟩
  · rintro ⟨holds, word, member, place⟩
    exact ⟨word, ⟨holds, member⟩, place⟩

theorem reads_headed {rest : α → Language α} :
    Reads (headed rest) data start stop ↔
      ∃ first, data[start]? = some first ∧ Reads (rest first) data (start + 1) stop := by
  constructor
  · rintro ⟨word, ⟨first, later, rfl, member⟩, before, after, rfl, rfl, rfl⟩
    refine ⟨first, by simp, later, member, before ++ [first], after, by simp, by simp, ?_⟩
    simp only [List.length_cons]
    omega
  · rintro ⟨first, here, later, member, before, after, split, length, rfl⟩
    obtain ⟨within, value⟩ := List.getElem?_eq_some_iff.mp here
    have prior : before = data.take start ++ [first] := by
      rw [← value, List.take_append_getElem, ← length, split]
      simp
    refine ⟨first :: later, ⟨first, later, rfl, member⟩, data.take start, after, ?_, ?_, ?_⟩
    · calc data = before ++ (later ++ after) := split
        _ = data.take start ++ (first :: later ++ after) := by
          rw [prior]
          simp
    · simpa using Nat.le_of_lt within
    · simp only [List.length_cons]
      omega

theorem reads_symbol {first : α} :
    Reads (symbol first) data start stop ↔ data[start]? = some first ∧ stop = start + 1 := by
  have asHeaded : symbol first = headed fun found => given (found = first) (1 : Language α) := by
    ext word
    constructor
    · rintro rfl
      exact ⟨first, [], rfl, rfl, rfl⟩
    · rintro ⟨found, later, rfl, rfl, empty⟩
      obtain rfl := (Language.mem_one later).mp empty
      rfl
  rw [asHeaded, reads_headed]
  simp only [reads_given, reads_one]
  constructor
  · rintro ⟨found, here, rfl, rfl, _⟩
    exact ⟨here, rfl⟩
  · rintro ⟨here, rfl⟩
    exact ⟨first, here, rfl, rfl, (List.getElem?_eq_some_iff.mp here).1⟩

theorem lt_of_reads_symbol_mul {first : α} {rest : Language α}
    (reads : Reads (symbol first * rest) data start stop) : start < stop := by
  obtain ⟨middle, marker, later⟩ := reads_mul.mp reads
  have := (reads_symbol.mp marker).2
  have := later.start_le
  omega

theorem reads_exactly {length : Nat} :
    Reads (exactly length) data start stop ↔ stop = start + length ∧ stop ≤ data.length := by
  constructor
  · intro reads
    obtain ⟨word, rfl, before, after, _, _, rfl⟩ := id reads
    exact ⟨rfl, reads.stop_le⟩
  · rintro ⟨rfl, within⟩
    have part : ((data.drop start).take length).length = length := by
      simp only [List.length_take, List.length_drop]
      omega
    refine ⟨(data.drop start).take length, part, data.take start, data.drop (start + length),
      ?_, ?_, ?_⟩
    · rw [← List.drop_drop, List.take_append_drop, List.take_append_drop]
    · simp only [List.length_take]
      omega
    · rw [part]

theorem reads_u16Headed {rest : Nat → Language UInt8} {data : List UInt8} :
    Reads (u16Headed rest) data start stop ↔
      ∃ low high, data[start]? = some low ∧ data[start + 1]? = some high ∧
        Reads (rest (low.toNat + 256 * high.toNat)) data (start + 2) stop := by
  simp only [u16Headed, reads_headed]
  constructor
  · rintro ⟨low, first, high, second, reads⟩
    exact ⟨low, high, first, second, reads⟩
  · rintro ⟨low, high, first, second, reads⟩
    exact ⟨low, first, high, second, reads⟩

/-- A repetition stops here or goes on with one more item. -/
theorem reads_kstar_mul {item last : Language α} :
    Reads (item∗ * last) data start stop ↔
      Reads last data start stop ∨
        ∃ middle, Reads item data start middle ∧ Reads (item∗ * last) data middle stop := by
  have unfolded : item∗ * last = last + item * (item∗ * last) := by
    conv_lhs => rw [← Language.one_add_self_mul_kstar_eq_kstar, add_mul, one_mul, mul_assoc]
  conv_lhs => rw [unfolded, reads_add, reads_mul]

theorem exists_reads_zero {language : Language α} :
    (∃ stop, Reads language data 0 stop) ↔ ∃ word ∈ language, word <+: data := by
  constructor
  · rintro ⟨_, word, member, before, after, rfl, empty, rfl⟩
    obtain rfl := List.length_eq_zero_iff.mp empty
    exact ⟨word, member, after, rfl⟩
  · rintro ⟨word, member, after, rfl⟩
    exact ⟨word.length, word, member, [], after, rfl, rfl, by simp⟩

end ByteGrammar

end SignalPurple
