import CalleeSaved.Routine.Caption
import Mathlib.Data.List.Basic

/-!
# Reading captions back

A caption shows the statuses of the registers as text: a line for each family, on it a group for
each status, in it the names of registers.  Empty groups and lines are left out, and a caption
without lines has a text of its own.  This module reads the groups back, and finds that no status is
lost.

**Reading.**  `read` gives the groups of a caption from its lines alone.

**Parts.**  `readNames_namesText`, `readGroup?_groupText` and `readFamily_familyLine`: names, groups
and lines are read as they were written.  No part holds the character that separates it from the
next (`name_chars`, `space_not_mem_groupText`), and no heading or label starts another one
(`dropPrefix?_front`).

**Caption.**  `read_lines`: the groups of a caption are those of the verdict.

**Result.**  `lines_lossless`.
-/

namespace CalleeSaved

theorem Register.ofName?_name
    (r : Register) :
    ofName? r.name = some r := by
  have hall : ∀ q ∈ all, ofName? q.name = some q := by decide
  exact hall r (mem_all r)

theorem Verdict.mem_familyWith_iff
    {verdict : Verdict}
    {status : Status}
    {f : Family}
    {r : Register} :
    r ∈ verdict.familyWith status f ↔ verdict.status r = status ∧ r.family = f := by
  simp [familyWith, Register.mem_all]

namespace Caption

section GroupReader

/-- Registers of a family that a caption lists under a status. -/
structure Group where
  family : Family
  status : Status
  registers : List Register
  deriving DecidableEq

/-- The text in front of the groups of a line. -/
def lineFront (emoji : Bool) (f : Family) : Text :=
  (heading emoji f ++ ": ").toList

/-- The text in front of the names of a group. -/
def groupFront (emoji : Bool) (status : Status) : Text :=
  (groupLabel emoji status ++ ":").toList

/-- The registers that are named between commas. -/
def readNames (text : Text) : List Register :=
  (text.splitOn ',').filterMap fun name => Register.ofName? (String.ofList name)

/-- The group of a family that a text shows. -/
def readGroup? (emoji : Bool) (f : Family) (text : Text) : Option Group :=
  shown.findSome? fun status =>
    (text.dropPrefix? (groupFront emoji status)).map fun names => ⟨f, status, readNames names⟩

/-- The groups of a family that a line shows. -/
def readFamily (emoji : Bool) (line : String) (f : Family) : List Group :=
  match line.toList.dropPrefix? (lineFront emoji f) with
  | none => []
  | some groups => (groups.splitOn ' ').filterMap (readGroup? emoji f)

/-- The groups that the lines of a caption show. -/
def read (emoji : Bool) (lines : List String) : List Group :=
  lines.flatMap fun line => [Family.data, Family.address].flatMap (readFamily emoji line)

/-- The group of a verdict for a family and a status, if any register has them. -/
def groupOf? (verdict : Verdict) (f : Family) (status : Status) : Option Group :=
  match verdict.familyWith status f with
  | [] => none
  | registers => some ⟨f, status, registers⟩

/-- The groups of a verdict for a family. -/
def familyGroups (verdict : Verdict) (f : Family) : List Group :=
  shown.filterMap (groupOf? verdict f)

/-- The groups of a verdict. -/
def groups (verdict : Verdict) : List Group :=
  [Family.data, Family.address].flatMap (familyGroups verdict)

end GroupReader

section CaptionParts

theorem name_chars
    (r : Register) :
    ',' ∉ r.name.toList ∧ ' ' ∉ r.name.toList := by
  have hall : ∀ q ∈ Register.all, ',' ∉ q.name.toList ∧ ' ' ∉ q.name.toList := by decide
  exact hall r (Register.mem_all r)

/-- Fronts that do not start one another can be told apart at the head of a text. -/
theorem dropPrefix?_front
    {ι : Type}
    [DecidableEq ι]
    {front : ι → Text}
    (hfront : ∀ {i j}, front i <+: front j → i = j)
    (i j : ι)
    (rest : Text) :
    (front i ++ rest).dropPrefix? (front j) = if i = j then some rest else none := by
  by_cases h : i = j
  · subst h
    rw [if_pos rfl]
    exact List.dropPrefix?_append_of_beq rest (beq_self_eq_true _)
  · rw [if_neg h, Option.eq_none_iff_forall_ne_some]
    intro tail htail
    obtain ⟨other, htext, hother⟩ := List.dropPrefix?_eq_some_iff.mp htail
    obtain rfl : other = front j := eq_of_beq hother
    rcases List.prefix_or_prefix_of_prefix ⟨rest, rfl⟩ ⟨tail, htext.symm⟩ with hstart | hstart
    · exact h (hfront hstart)
    · exact h (hfront hstart).symm

/-- No heading starts another one. -/
theorem lineFront_inj
    {emoji : Bool}
    {f g : Family} :
    lineFront emoji f <+: lineFront emoji g → f = g := by
  cases emoji <;> cases f <;> cases g <;> decide

/-- No label starts another one. -/
theorem groupFront_inj
    {emoji : Bool}
    {s t : Status} :
    groupFront emoji s <+: groupFront emoji t → s = t := by
  cases emoji <;> cases s <;> cases t <;> decide

/-- The names of registers between commas. -/
def namesText (registers : List Register) : Text :=
  [','].intercalate (registers.map fun r => r.name.toList)

theorem readNames_namesText
    {registers : List Register}
    (hne : registers ≠ []) :
    readNames (namesText registers) = registers := by
  have hsplit : (namesText registers).splitOn ',' = registers.map fun r => r.name.toList := by
    refine List.splitOn_intercalate ',' ?_ (by simpa using hne)
    intro name hname
    obtain ⟨r, -, rfl⟩ := List.mem_map.mp hname
    exact (name_chars r).1
  rw [readNames, hsplit, List.filterMap_map]
  simp [Register.ofName?_name]

theorem space_not_mem_namesText
    (registers : List Register) :
    ' ' ∉ namesText registers := by
  induction registers with
  | nil =>
      simp [namesText]
  | cons r rest ih =>
      have hr := (name_chars r).2
      cases rest with
      | nil =>
          simpa [namesText] using hr
      | cons q rest =>
          have hcons :
              namesText (r :: q :: rest) = r.name.toList ++ ',' :: namesText (q :: rest) := by
            simp [namesText]
          simp [hcons, hr, ih]

/-- The text of a group. -/
def groupText (emoji : Bool) (group : Group) : Text :=
  groupFront emoji group.status ++ namesText group.registers

theorem toList_group?
    (emoji : Bool)
    (verdict : Verdict)
    (f : Family)
    (status : Status) :
    (group? emoji verdict f status).map String.toList =
      (groupOf? verdict f status).map (groupText emoji) := by
  rw [group?, groupOf?]
  cases verdict.familyWith status f with
  | nil =>
      rfl
  | cons r rest =>
      simp [groupText, groupFront, namesText, Function.comp_def]

theorem readGroup?_groupText
    (emoji : Bool)
    {group : Group}
    (hshown : group.status ∈ shown)
    (hne : group.registers ≠ []) :
    readGroup? emoji group.family (groupText emoji group) = some group := by
  obtain ⟨f, status, registers⟩ := group
  simp only [readGroup?, groupText, dropPrefix?_front groupFront_inj]
  obtain rfl | rfl | rfl : status = .scratch ∨ status = .saved ∨ status = .clobbered := by
    simpa [shown] using hshown
  all_goals simp [shown, readNames_namesText hne]

theorem space_not_mem_groupText
    (emoji : Bool)
    (group : Group) :
    ' ' ∉ groupText emoji group := by
  have hfront : ' ' ∉ groupFront emoji group.status := by
    cases emoji <;> cases group.status <;> decide
  rw [groupText, List.mem_append, not_or]
  exact ⟨hfront, space_not_mem_namesText group.registers⟩

end CaptionParts

section CaptionLines

theorem groupOf?_eq_some
    {verdict : Verdict}
    {f : Family}
    {status : Status}
    {group : Group}
    (h : groupOf? verdict f status = some group) :
    group = ⟨f, status, verdict.familyWith status f⟩ ∧ group.registers ≠ [] := by
  rw [groupOf?] at h
  cases hwith : verdict.familyWith status f with
  | nil =>
      simp [hwith] at h
  | cons r rest =>
      obtain rfl : ⟨f, status, r :: rest⟩ = group := by simpa [hwith] using h
      simp

theorem toList_familyLine?
    (emoji : Bool)
    (verdict : Verdict)
    (f : Family) :
    (familyLine? emoji verdict f).map String.toList =
      match familyGroups verdict f with
      | [] => none
      | found => some (lineFront emoji f ++ [' '].intercalate (found.map (groupText emoji))) := by
  have htexts :
      (shown.filterMap (group? emoji verdict f)).map String.toList =
        (familyGroups verdict f).map (groupText emoji) := by
    simp only [familyGroups, List.map_filterMap, toList_group?]
  rw [familyLine?]
  generalize shown.filterMap (group? emoji verdict f) = texts at htexts
  generalize familyGroups verdict f = found at htexts
  cases texts <;> cases found <;> simp_all [lineFront]

/-- Groups between spaces are read as they were written. -/
theorem readGroups_familyGroups
    (emoji : Bool)
    {verdict : Verdict}
    {f : Family}
    (hne : familyGroups verdict f ≠ []) :
    (([' '].intercalate ((familyGroups verdict f).map (groupText emoji))).splitOn ' ').filterMap
        (readGroup? emoji f) =
      familyGroups verdict f := by
  have hread : ∀ group ∈ familyGroups verdict f,
      readGroup? emoji f (groupText emoji group) = some group := by
    intro group hgroup
    obtain ⟨status, hshown, hof⟩ := List.mem_filterMap.mp hgroup
    obtain ⟨rfl, hregisters⟩ := groupOf?_eq_some hof
    exact readGroup?_groupText emoji hshown hregisters
  rw [List.splitOn_intercalate ' ' ?_ (by simpa using hne), List.filterMap_map]
  · calc (familyGroups verdict f).filterMap (readGroup? emoji f ∘ groupText emoji)
        = (familyGroups verdict f).filterMap some := List.filterMap_congr hread
      _ = familyGroups verdict f := List.filterMap_some
  · intro text htext
    obtain ⟨group, -, rfl⟩ := List.mem_map.mp htext
    exact space_not_mem_groupText emoji group

/-- A line shows the groups of its family and of no other one. -/
theorem readFamily_familyLine
    {emoji : Bool}
    {verdict : Verdict}
    {f : Family}
    {line : String}
    (h : familyLine? emoji verdict f = some line)
    (g : Family) :
    readFamily emoji line g = if f = g then familyGroups verdict f else [] := by
  have htext := toList_familyLine? emoji verdict f
  rw [h, Option.map_some] at htext
  split at htext
  · cases htext
  · next hne =>
      rw [readFamily, Option.some.inj htext, dropPrefix?_front lineFront_inj]
      by_cases hfamily : f = g
      · subst hfamily
        simpa using readGroups_familyGroups emoji hne
      · simp [hfamily]

/-- A family without a line has no groups. -/
theorem familyGroups_eq_nil
    {emoji : Bool}
    {verdict : Verdict}
    {f : Family}
    (h : familyLine? emoji verdict f = none) :
    familyGroups verdict f = [] := by
  have htext := toList_familyLine? emoji verdict f
  rw [h, Option.map_none] at htext
  split at htext
  · assumption
  · cases htext

/-- The groups of a caption are those of the verdict. -/
theorem read_lines
    (emoji : Bool)
    (verdict : Verdict) :
    read emoji (lines emoji verdict) = groups verdict := by
  have hfamily (f : Family) :
      read emoji (familyLine? emoji verdict f).toList = familyGroups verdict f := by
    cases hline : familyLine? emoji verdict f with
    | none =>
        rw [familyGroups_eq_nil hline]
        rfl
    | some line =>
        simp only [read, Option.toList_some, List.flatMap_cons, List.flatMap_nil, List.append_nil,
          readFamily_familyLine hline]
        cases f <;> simp
  have hread :
      read emoji ([Family.data, Family.address].filterMap (familyLine? emoji verdict)) =
        groups verdict := by
    rw [groups, ← funext hfamily, read, List.filterMap_eq_flatMap_toList, List.flatMap_assoc]
    rfl
  rw [lines]
  split
  · next hnone =>
      rw [← hread, hnone]
      cases emoji <;> rfl
  · exact hread

end CaptionLines

section RegisterGroups

/-- The groups that list a register: the one of its family and status, or none. -/
theorem filter_groups
    (verdict : Verdict)
    (r : Register) :
    (groups verdict).filter (fun group => decide (r ∈ group.registers)) =
      if verdict.status r = .untouched then []
      else [⟨r.family, verdict.status r, verdict.familyWith (verdict.status r) r.family⟩] := by
  have hgroup (f : Family) (status : Status) :
      (groupOf? verdict f status).toList.filter (fun group => decide (r ∈ group.registers)) =
        if verdict.status r = status ∧ r.family = f then
          [⟨f, status, verdict.familyWith status f⟩]
        else [] := by
    have hmem : r ∈ verdict.familyWith status f ↔ verdict.status r = status ∧ r.family = f :=
      Verdict.mem_familyWith_iff
    rw [groupOf?]
    cases hwith : verdict.familyWith status f with
    | nil =>
        simp_all
    | cons q rest =>
        rw [hwith] at hmem
        simp [hmem, List.filter_cons]
  simp only [groups, familyGroups, List.filterMap_eq_flatMap_toList, List.filter_flatMap, hgroup]
  cases r.family <;> cases verdict.status r <;> simp [shown]

end RegisterGroups

/-- **Captions lose nothing.**  Whatever statuses a verdict has, no verdict with other statuses has
the same caption.  Of the groups that can be read off the caption, a register that is not untouched
is in exactly one, the group of its family and status, and an untouched register is in none. -/
theorem lines_lossless
    (emoji : Bool)
    (verdict : Verdict) :
    (∀ other : Verdict, lines emoji other = lines emoji verdict → other.status = verdict.status) ∧
    ∀ r : Register,
      (read emoji (lines emoji verdict)).filter (fun group => decide (r ∈ group.registers)) =
        if verdict.status r = .untouched then []
        else [⟨r.family, verdict.status r, verdict.familyWith (verdict.status r) r.family⟩] := by
  constructor
  · intro other hlines
    have hgroups : groups other = groups verdict := by
      rw [← read_lines emoji, hlines, read_lines]
    funext r
    have hother := filter_groups other r
    rw [hgroups, filter_groups] at hother
    split at hother <;> split at hother <;> simp_all
  · intro r
    rw [read_lines]
    exact filter_groups verdict r

/-- No body gives these statuses: a scratch register is unsafe, and preserved ones are scratch. -/
theorem lines_lossless_odd_statuses :
    let verdict : Verdict :=
      ⟨fun r => if r = .d 0 then .clobbered else if r = .a 6 ∨ r = .d 7 then .scratch
        else .untouched, ∅⟩
    let other : Verdict :=
      ⟨fun r => if r.number = 0 ∧ r.family = .data then .clobbered
        else if r ∈ [.d 7, .a 6] then .scratch else .untouched,
        ⟨∅, RegisterSet.ofList [.d 0], ∅⟩⟩
    lines true verdict = ["🧮 DATA: 🟡Scratch:D7 🔴UNSAFE:D0", "📍 ADDR: 🟡Scratch:A6"] ∧
      other.status = verdict.status ∧
      (read true (lines true verdict)).filter (fun group => decide (.a 6 ∈ group.registers)) =
        [⟨.address, .scratch, [.a 6]⟩] := by
  intro verdict other
  obtain ⟨hinjective, hgroups⟩ := lines_lossless true verdict
  exact ⟨by decide, hinjective other (by decide), hgroups (.a 6)⟩

end Caption
end CalleeSaved
