import Autonoesis.Base.Text

/-!
# Reading joined fields back

Fields joined by newlines can be cut into fields in more than one way. `cut_unique`
says when they cannot: each part holds one marked element, every other cut has at
least one in each part, and no unmarked run lies between two parts that either could
take. A text is cut into its lines, and the lines that are not blank are the marks.
-/

namespace Base

section Cut

variable {α : Type} {mark : α → Bool}

def StartsMarked (mark : α → Bool) (l : List α) : Prop := ∃ a rest, l = a :: rest ∧ mark a = true

def EndsMarked (mark : α → Bool) (l : List α) : Prop := ∃ init a, l = init ++ [a] ∧ mark a = true

theorem not_ends_marked {l u : List α} (none : u.countP mark = 0) (some : u ≠ []) :
    ¬EndsMarked mark (l ++ u) := by
  rintro ⟨init, a, same, marked⟩
  have last : a ∈ u := by
    have := congrArg List.getLast? same
    rw [List.getLast?_append_of_ne_nil _ some, List.getLast?_concat] at this
    exact List.mem_of_getLast? this
  exact List.countP_eq_zero.mp none a last marked

theorem not_starts_marked {l u : List α} (none : u.countP mark = 0) (some : u ≠ []) :
    ¬StartsMarked mark (u ++ l) := by
  rintro ⟨a, rest, same, marked⟩
  obtain ⟨b, tail, rfl⟩ := List.exists_cons_of_ne_nil some
  rw [List.cons_append, List.cons.injEq] at same
  exact List.countP_eq_zero.mp none b List.mem_cons_self (same.1 ▸ marked)

/-- The first part of a cut is settled when the run after its mark is. -/
theorem cut_head {x x' rest rest' : List α} (same : x ++ rest = x' ++ rest')
    (one : x.countP mark = 1) (some : 1 ≤ x'.countP mark)
    (fewer : rest.countP mark ≤ rest'.countP mark)
    (short : EndsMarked mark x ∨ StartsMarked mark rest')
    (long : EndsMarked mark x' ∨ StartsMarked mark rest) : x = x' ∧ rest = rest' := by
  rcases List.append_eq_append_iff.mp same with ⟨u, rfl, rfl⟩ | ⟨u, rfl, rfl⟩
  · have none : u.countP mark = 0 := by
      rw [List.countP_append] at fewer
      omega
    by_cases nil : u = []
    · simp [nil]
    · exact (long.elim (not_ends_marked none nil) (not_starts_marked none nil)).elim
  · have none : u.countP mark = 0 := by
      rw [List.countP_append] at one
      omega
    by_cases nil : u = []
    · simp [nil]
    · exact (short.elim (not_ends_marked none nil) (not_starts_marked none nil)).elim

/-- No unmarked run between neighbours of either cut can change sides. -/
def Pinned (mark : α → Bool) : List (List α) → List (List α) → Prop
  | x :: y :: rest, x' :: y' :: rest' =>
    (EndsMarked mark x ∨ StartsMarked mark y') ∧ (EndsMarked mark x' ∨ StartsMarked mark y) ∧
      Pinned mark (y :: rest) (y' :: rest')
  | _, _ => True

theorem StartsMarked.append {l : List α} (starts : StartsMarked mark l) (rest : List α) :
    StartsMarked mark (l ++ rest) := by
  obtain ⟨a, tail, rfl, marked⟩ := starts
  exact ⟨a, tail ++ rest, rfl, marked⟩

theorem countP_flatten_of_one {parts : List (List α)} (one : ∀ x ∈ parts, x.countP mark = 1) :
    parts.flatten.countP mark = parts.length := by
  rw [List.countP_flatten, List.map_congr_left one, List.map_const', List.sum_replicate_nat,
    Nat.mul_one]

theorem length_le_countP_flatten {parts : List (List α)}
    (some : ∀ x ∈ parts, 1 ≤ x.countP mark) : parts.length ≤ parts.flatten.countP mark := by
  induction parts with
  | nil => exact Nat.zero_le _
  | cons x rest ih =>
    obtain ⟨here, there⟩ := List.forall_mem_cons.mp some
    have := ih there
    rw [List.flatten_cons, List.countP_append, List.length_cons]
    omega

/-- Two cuts of one list into as many parts are the same when the first has one mark a
part, the second at least one, and they are pinned. -/
theorem cut_unique {parts parts' : List (List α)} (length : parts.length = parts'.length)
    (same : parts.flatten = parts'.flatten) (one : ∀ x ∈ parts, x.countP mark = 1)
    (some : ∀ x ∈ parts', 1 ≤ x.countP mark) (pinned : Pinned mark parts parts') :
    parts = parts' := by
  induction parts generalizing parts' with
  | nil => exact (List.eq_nil_of_length_eq_zero length.symm).symm
  | cons x rest ih =>
    obtain ⟨x', rest', rfl⟩ : ∃ x' rest', parts' = x' :: rest' :=
      List.exists_cons_of_length_eq_add_one length.symm
    obtain ⟨head, ones⟩ := List.forall_mem_cons.mp one
    obtain ⟨head', somes⟩ := List.forall_mem_cons.mp some
    have lengths : rest.length = rest'.length := Nat.succ.inj length
    have fewer : rest.flatten.countP mark ≤ rest'.flatten.countP mark := by
      rw [countP_flatten_of_one ones, lengths]
      exact length_le_countP_flatten somes
    simp only [List.flatten_cons] at same
    match rest, rest', pinned with
    | [], [], _ => simpa using same
    | y :: more, y' :: more', ⟨short, long, pins⟩ =>
      obtain ⟨rfl, flat⟩ := cut_head same head head' fewer
        (short.imp_right fun h => h.append more'.flatten)
        (long.imp_right fun h => h.append more.flatten)
      rw [ih lengths flat ones somes pins]

end Cut

/-! ## Lines of a text -/

def lines (s : String) : List (List Char) := s.toList.splitOn '\n'

/-- The line holds something. -/
def inked (line : List Char) : Bool := !line.all isSpace

theorem lines_newline (x y : String) : lines (x ++ "\n" ++ y) = lines x ++ lines y := by
  have chars : (x ++ "\n" ++ y).toList = x.toList ++ '\n' :: y.toList := by simp
  rw [lines, chars, List.splitOn_append_cons_self]
  rfl

theorem lines_injective {x y : String} (same : lines x = lines y) : x = y := by
  have := congrArg (List.intercalate ['\n']) same
  rwa [lines, lines, List.intercalate_splitOn, List.intercalate_splitOn, String.toList_inj] at this

theorem lines_of_single {s : String} (single : '\n' ∉ s.toList) : lines s = [s.toList] :=
  List.splitOn_eq_singleton single

theorem lines_intercalate (first : String) (rest : List String) :
    lines ("\n".intercalate (first :: rest)) = ((first :: rest).map lines).flatten := by
  induction rest generalizing first with
  | nil => simp
  | cons second rest ih =>
    rw [String.intercalate_cons_cons, lines_newline, ih]
    rfl

theorem cut_at_newline {s : String} (there : '\n' ∈ s.toList) :
    ∃ front back, s = front ++ "\n" ++ back := by
  obtain ⟨front, back, split⟩ := List.append_of_mem there
  refine ⟨String.ofList front, String.ofList back, ?_⟩
  rw [← String.toList_inj, split]
  simp

theorem front_ne (front back : String) : front ≠ front ++ "\n" ++ back := by
  intro same
  have := congrArg (fun s => s.toList.length) same
  simp at this

theorem back_ne (front back : String) : back ≠ front ++ "\n" ++ back := by
  intro same
  have := congrArg (fun s => s.toList.length) same
  simp at this
  omega

theorem isBlank_newline (x y : String) : isBlank (x ++ "\n" ++ y) = (isBlank x && isBlank y) := by
  have newline : isSpace '\n' = true := by decide
  simp [isBlank, newline]

theorem isBlank_iff_lines (s : String) : isBlank s = true ↔ (lines s).countP inked = 0 := by
  have spread (ls : List (List Char)) :
      ([ '\n' ].intercalate ls).all isSpace = true ↔ ∀ l ∈ ls, l.all isSpace = true := by
    induction ls with
    | nil => simp
    | cons l rest ih =>
      cases rest with
      | nil => simp
      | cons m rest =>
        have newline : isSpace '\n' = true := by decide
        rw [List.forall_mem_cons, ← ih]
        simp [List.intercalate_cons_cons, newline]
  have whole := spread (lines s)
  rw [lines, List.intercalate_splitOn] at whole
  rw [isBlank, whole, List.countP_eq_zero]
  simp [lines, inked]

theorem inked_of_not_blank {s : String} (ink : isBlank s = false) : 1 ≤ (lines s).countP inked := by
  have := mt (isBlank_iff_lines s).mpr (by simp [ink])
  omega

theorem one_line {s : String} (ink : isBlank s = false) (single : '\n' ∉ s.toList) :
    (lines s).countP inked = 1 ∧ StartsMarked inked (lines s) ∧ EndsMarked inked (lines s) := by
  have marked : inked s.toList = true := by simpa [inked, isBlank] using ink
  rw [lines_of_single single]
  exact ⟨by simp [marked], ⟨_, [], rfl, marked⟩, ⟨[], _, rfl, marked⟩⟩

/-- A text whose newlines all have nothing but blanks before them ends in its one line. -/
theorem last_line {s : String} (ink : isBlank s = false)
    (leading : ∀ x y, s = x ++ "\n" ++ y → isBlank x = true) :
    (lines s).countP inked = 1 ∧ EndsMarked inked (lines s) := by
  by_cases newline : '\n' ∈ s.toList
  · obtain ⟨back, front, split, single⟩ :=
      List.eq_append_cons_of_mem (List.mem_reverse.mpr newline)
    have cut : s = String.ofList front.reverse ++ "\n" ++ String.ofList back.reverse := by
      rw [← String.toList_inj, ← List.reverse_inj, split]
      simp
    have blank := leading _ _ cut
    rw [cut, isBlank_newline, blank, Bool.true_and] at ink
    obtain ⟨one, _, ends⟩ := one_line ink (by simpa using single)
    rw [cut, lines_newline, List.countP_append, (isBlank_iff_lines _).mp blank]
    obtain ⟨init, a, last, marked⟩ := ends
    exact ⟨by omega, ⟨_ ++ init, a, by rw [last, List.append_assoc], marked⟩⟩
  · obtain ⟨one, _, ends⟩ := one_line ink newline
    exact ⟨one, ends⟩

/-- A text whose newlines all have nothing but blanks after them starts with its one line. -/
theorem first_line {s : String} (ink : isBlank s = false)
    (trailing : ∀ x y, s = x ++ "\n" ++ y → isBlank y = true) :
    (lines s).countP inked = 1 ∧ StartsMarked inked (lines s) := by
  by_cases newline : '\n' ∈ s.toList
  · obtain ⟨front, back, split, single⟩ := List.eq_append_cons_of_mem newline
    have cut : s = String.ofList front ++ "\n" ++ String.ofList back := by
      rw [← String.toList_inj, split]
      simp
    have blank := trailing _ _ cut
    rw [cut, isBlank_newline, blank, Bool.and_true] at ink
    obtain ⟨one, starts, _⟩ := one_line ink (by simpa using single)
    rw [cut, lines_newline, List.countP_append, (isBlank_iff_lines _).mp blank]
    exact ⟨by omega, starts.append _⟩
  · obtain ⟨one, starts, _⟩ := one_line ink newline
    exact ⟨one, starts⟩

end Base
