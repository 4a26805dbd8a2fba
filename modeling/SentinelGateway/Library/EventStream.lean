import Mathlib.Data.List.Basic

/-!
# Event streams

The text format of server-sent events. A line ends with a line feed, a carriage return,
or both in this order, and a blank line ends an event. Of the fields of an event only the
data are kept here. An event in which the stream breaks off is none.
-/

namespace EventStream

/-- The complete lines of a text, where `current` is what was read of the first one. After
a carriage return, a line feed belongs to the same line end. -/
def linesFrom (returned : Bool) (current : List Char) : List Char → List (List Char)
  | [] => []
  | c :: rest =>
    if c = '\n' ∧ returned then linesFrom false current rest
    else if c = '\n' ∨ c = '\r' then current :: linesFrom (c = '\r') [] rest
    else linesFrom false (current ++ [c]) rest

/-- The byte order mark that a stream may begin with. -/
def mark : Char := Char.ofNat 0xfeff

/-- The complete lines of a stream. -/
def lines (text : List Char) : List (List Char) :=
  linesFrom false [] (if text.head? = some mark then text.tail else text)

/-- The data on a line: what follows the name of the field and the colon, but for one space. -/
def data? (line : List Char) : Option (List Char) :=
  if line = "data".toList then some []
  else if "data:".toList.isPrefixOf line then
    some (if (line.drop 5).head? = some ' ' then line.drop 6 else line.drop 5)
  else none

/-- The data of the events that the lines end, where `data` was read of the first one.
An event without data is dropped. -/
def eventsFrom (data : List (List Char)) : List (List Char) → List (List (List Char))
  | [] => []
  | line :: rest =>
    if line = [] then (if data = [] then [] else [data]) ++ eventsFrom [] rest
    else eventsFrom (data ++ (data? line).toList) rest

/-- The data of the event that the lines leave open. -/
def leftFrom (data : List (List Char)) : List (List Char) → List (List Char)
  | [] => data
  | line :: rest =>
    if line = [] then leftFrom [] rest else leftFrom (data ++ (data? line).toList) rest

/-- The events of a stream. -/
def events (text : List Char) : List (List (List Char)) := eventsFrom [] (lines text)

/-- What an event says. -/
def said (event : List (List Char)) : List Char := List.intercalate ['\n'] event

theorem said_singleton (value : List Char) : said [value] = value := by
  simp [said, List.intercalate]

@[simp] theorem data?_nil : data? [] = none := by decide

/-- An event with data that the lines do not leave open is the first one they end. -/
theorem eventsFrom_of_ne_nil {data lines : List (List Char)} (hdata : data ≠ [])
    (hleft : leftFrom data lines = []) :
    ∃ more rest, eventsFrom data lines = (data ++ more) :: rest := by
  induction lines generalizing data with
  | nil => exact absurd hleft hdata
  | cons line lines ih =>
    by_cases hblank : line = []
    · refine ⟨[], eventsFrom [] lines, ?_⟩
      rw [eventsFrom, if_pos hblank, if_neg hdata, List.append_nil]
      rfl
    · rw [leftFrom, if_neg hblank] at hleft
      obtain ⟨more, rest, heq⟩ := ih (by simp [hdata]) hleft
      refine ⟨(data? line).toList ++ more, rest, ?_⟩
      rw [eventsFrom, if_neg hblank, heq, List.append_assoc]

/-- Where each event has one line of data, to search the events is to search the lines. -/
theorem findSome?_eventsFrom {α : Type*} {f : List Char → Option α} {data lines : List (List Char)}
    (hskip : ∀ value ∈ data, f value = none)
    (hsingle : ∀ event ∈ eventsFrom data lines, event.length ≤ 1)
    (hleft : leftFrom data lines = []) :
    (eventsFrom data lines).findSome? (fun event => f (said event)) =
      lines.findSome? fun line => (data? line).bind f := by
  induction lines generalizing data with
  | nil => rfl
  | cons line lines ih =>
    by_cases hblank : line = []
    · rw [eventsFrom, if_pos hblank] at hsingle ⊢
      rw [leftFrom, if_pos hblank] at hleft
      have hfirst : (if data = [] then [] else [data]).findSome? (fun event => f (said event)) =
          none := by
        split_ifs with hdata
        · rfl
        · have hone := hsingle data (by simp [hdata])
          obtain ⟨value, rfl⟩ := List.length_eq_one_iff.mp
            (Nat.le_antisymm hone (List.length_pos_iff.mpr hdata))
          rw [List.findSome?_singleton, said_singleton]
          exact hskip value (List.mem_singleton_self value)
      rw [List.findSome?_append, hfirst, Option.none_or, List.findSome?_cons, hblank, data?_nil]
      exact ih (fun _ hvalue => by cases hvalue)
        (fun event hevent => hsingle event (List.mem_append_right _ hevent)) hleft
    · rw [eventsFrom, if_neg hblank] at hsingle ⊢
      rw [leftFrom, if_neg hblank] at hleft
      rw [List.findSome?_cons]
      cases hdata : data? line with
      | none =>
        rw [hdata, Option.toList_none, List.append_nil] at hsingle hleft
        rw [Option.toList_none, List.append_nil]
        exact ih hskip hsingle hleft
      | some value =>
        rw [hdata, Option.toList_some] at hsingle hleft
        rw [Option.toList_some, Option.bind_some]
        cases hvalue : f value with
        | none =>
          refine ih ?_ hsingle hleft
          intro other hother
          rcases List.mem_append.mp hother with hearlier | hlast
          · exact hskip other hearlier
          · rwa [List.mem_singleton.mp hlast]
        | some found =>
          -- the event that is under way has this line of data and no other
          obtain ⟨more, rest, heq⟩ := eventsFrom_of_ne_nil (by simp) hleft
          have hone := hsingle _ (heq ▸ List.mem_cons_self)
          simp only [List.length_append, List.length_singleton] at hone
          obtain rfl : data = [] := List.length_eq_zero_iff.mp (by omega)
          obtain rfl : more = [] := List.length_eq_zero_iff.mp (by omega)
          rw [heq, List.findSome?_cons, List.append_nil, List.nil_append, said_singleton, hvalue]

end EventStream
