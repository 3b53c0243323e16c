import BoschBle.Bluez.State
import BoschBle.Foundation.Dictionary
import BoschBle.Foundation.Integer
import BoschBle.Foundation.Links

/-!
# Processes that use the controller

The tools refuse to work while another one of them drives the controller.  The
process itself and its ancestors do not count, which are found by following the
parents in the output of `ps`.
-/

namespace BoschBle
namespace Bluez

open Foundation

/-- The commands that keep a controller busy. -/
def BUSY_PROCESS_PATTERNS : List String :=
  ["bosch-ble-handshake", "bosch-ble-dashboard", "bosch-ble-dump-gatt",
    "bosch-ble-log-chars", "bosch-ble-probe", "bluetoothctl scan", "bluetoothctl connect",
    "bluetoothctl pair", "bluetoothctl trust"]

/-- What is kept of a line of `ps`: the parent, if it is a number, the arguments, and
the text that is displayed. -/
structure ProcessRow where
  ppid : Option Int
  args : Text
  displayLine : String
  deriving DecidableEq

/-- `process_rows`, in the order in which the keys came in. -/
abbrev ProcessRows := List (Int × ProcessRow)

/-- `process_rows[pid] = row`. -/
def ProcessRows.setItem (rows : ProcessRows) (pid : Int) (row : ProcessRow) : ProcessRows :=
  Dictionary.setItem rows pid row

/-- What the loop over the lines takes from one of them. -/
def processRow (printable : Char -> Bool) (rawLine : Text) : Option (Int × ProcessRow) :=
  let row := fun (pid : Int) (ppid : Option Int) (args : Text) =>
    (pid, ⟨ppid, args, toString pid ++ " " ++ String.ofList args⟩)
  match Text.splitWordsMax 2 (Text.strip rawLine) with
  | [pidText, args] =>
      match Integer.intOf printable 10 pidText with
      | .error _ => none
      | .ok pid => some (row pid none args)
  | [pidText, ppidText, args] =>
      match Integer.intOf printable 10 pidText with
      | .error _ => none
      | .ok pid =>
          match Integer.intOf printable 10 ppidText with
          | .error _ => some (row pid none ([' '].intercalate [ppidText, args]))
          | .ok ppid => some (row pid ppid args)
  | _ => none

/-- The rows of the lines. -/
def processRows (printable : Char -> Bool) (stdout : String) : ProcessRows :=
  (Text.splitLines stdout.toList).foldl
    (fun rows rawLine =>
      match processRow printable rawLine with
      | none => rows
      | some (pid, row) => rows.setItem pid row) []

/-- `process_rows.get(pid, (default, "", ""))[0]`. -/
def ProcessRows.parent (rows : ProcessRows) (pid : Int) (default : Option Int) : Option Int :=
  match rows.lookup pid with
  | none => default
  | some row => row.ppid

theorem ProcessRows.mem_of_parent
    {rows : ProcessRows} {pid : Int}
    (hasParent : (rows.parent pid none).isSome) :
    pid ∈ rows.map Prod.fst := by
  rw [parent] at hasParent
  cases found : rows.lookup pid with
  | none =>
      rw [found] at hasParent
      cases hasParent
  | some row =>
      obtain ⟨front, back, rfl, _⟩ := List.lookup_eq_some_iff.mp found
      simp

/-- The parents in the table, as links. -/
def ProcessRows.links (rows : ProcessRows) : Links Int where
  link := fun pid => rows.parent pid none
  places := rows.map Prod.fst
  covers := fun _ => mem_of_parent

/-- The loop over the ancestors. -/
def ignoredPids (rows : ProcessRows) (currentPid getppid : Int) : List Int :=
  (rows.links.walk fun pid => 1 < pid).exec
    ([currentPid], rows.parent currentPid (some getppid))

/-- `list_busy_bluetooth_processes`, with what `os.getpid`, `os.getppid` and `ps`
give. -/
def listBusyBluetoothProcesses
    (printable : Char -> Bool)
    (currentPid : Option Int)
    (getpid getppid : Int)
    (result : CompletedProcess) : List String :=
  let currentPid := currentPid.getD getpid
  if result.returncode ≠ 0 then []
  else
    let rows := processRows printable result.stdout
    let ignored := ignoredPids rows currentPid getppid
    (rows.filter fun (pid, row) =>
      pid ∉ ignored && !"ssh ".toList.isPrefixOf row.args &&
        BUSY_PROCESS_PATTERNS.any fun pattern => Text.contains pattern.toList row.args).map
      fun (_, row) => row.displayLine

/-! ## Tables -/

/-- A line of a process table: a number, the number of the parent and the arguments,
with white space between them and around them. -/
structure TableRow (printable : Char -> Bool) where
  pid : Int
  ppid : Int
  args : Text
  pidText : Text
  ppidText : Text
  front : Text
  gap : Text
  secondGap : Text
  back : Text
  pidReads : Integer.intOf printable 10 pidText = .ok pid
  ppidReads : Integer.intOf printable 10 ppidText = .ok ppid
  pidWord : Text.IsWord pidText
  ppidWord : Text.IsWord ppidText
  argsTrimmed : Text.Trimmed args
  frontBlank : Text.Blank front
  gapBlank : gap ≠ [] ∧ Text.Blank gap
  secondGapBlank : secondGap ≠ [] ∧ Text.Blank secondGap
  backBlank : Text.Blank back

section Table

variable {printable : Char -> Bool}

theorem isWord_toDigits (number : Nat) : Text.IsWord (Nat.toDigits 10 number) := by
  refine ⟨Nat.toDigits_ne_nil, ?_⟩
  intro char present
  have ascii := Nat.isDigit_of_mem_toDigits (Nat.succ_pos 9) (Nat.le_refl 10) present
  have inRange : 48 ≤ char.toNat ∧ char.toNat ≤ 57 := by
    simpa [Char.isDigit, UInt32.le_iff_toNat_le] using ascii
  have allCodes : ∀ code < 58, 48 ≤ code -> Text.isSpace (Char.ofNat code) = false := by
    decide
  have noSpace := allCodes char.toNat (Nat.lt_succ_of_le inRange.2) inRange.1
  rwa [Char.ofNat_toNat] at noSpace

theorem blank_singleton : [' '] ≠ [] ∧ Text.Blank [' '] := by
  refine ⟨List.cons_ne_nil _ _, ?_⟩
  intro char present
  rw [List.mem_singleton] at present
  subst present
  rfl

namespace TableRow

/-- A row of natural numbers with single blanks. -/
def ofNumbers
    (pid ppid : Nat)
    (args : Text)
    (pidShort : (Nat.toDigits 10 pid).length ≤ 4300)
    (ppidShort : (Nat.toDigits 10 ppid).length ≤ 4300)
    (trimmed : Text.Trimmed args) : TableRow printable where
  pid := pid
  ppid := ppid
  args := args
  pidText := Nat.toDigits 10 pid
  ppidText := Nat.toDigits 10 ppid
  front := []
  gap := [' ']
  secondGap := [' ']
  back := []
  pidReads := Integer.intOf_toDigits pidShort
  ppidReads := Integer.intOf_toDigits ppidShort
  pidWord := isWord_toDigits pid
  ppidWord := isWord_toDigits ppid
  argsTrimmed := trimmed
  frontBlank := fun _ inNone => absurd inNone List.not_mem_nil
  gapBlank := blank_singleton
  secondGapBlank := blank_singleton
  backBlank := fun _ inNone => absurd inNone List.not_mem_nil

/-- The row as a line of text. -/
def line (row : TableRow printable) : Text :=
  row.front ++ (row.pidText ++ (row.gap ++ (row.ppidText ++ (row.secondGap ++ row.args)))) ++
    row.back

/-- A process as it is reported. -/
def displayLine (row : TableRow printable) : String :=
  toString row.pid ++ " " ++ String.ofList row.args

/-- The arguments are those of one of the tools or of `bluetoothctl` at work. -/
def Busy (row : TableRow printable) : Prop :=
  ∃ pattern ∈ BUSY_PROCESS_PATTERNS, Text.contains pattern.toList row.args = true

/-- The row as it is kept. -/
def kept (row : TableRow printable) : Int × ProcessRow :=
  (row.pid, ⟨some row.ppid, row.args, row.displayLine⟩)

theorem head_of_blank
    {gap rest : Text}
    (blank : gap ≠ [] ∧ Text.Blank gap) :
    ∀ char ∈ (gap ++ rest).head?, Text.isSpace char = true := by
  intro char isHead
  rw [List.head?_append_of_ne_nil _ blank.1] at isHead
  exact blank.2 char (List.mem_of_mem_head? isHead)

theorem splitWordsMax_line (row : TableRow printable) :
    Text.splitWordsMax 2 (Text.strip row.line) = [row.pidText, row.ppidText, row.args] := by
  obtain ⟨argsNonempty, argsStart, argsEnd⟩ := row.argsTrimmed
  have trimmed : Text.Trimmed
      (row.pidText ++ (row.gap ++ (row.ppidText ++ (row.secondGap ++ row.args)))) := by
    refine ⟨?_, ?_, ?_⟩
    · simp [row.pidWord.1]
    · intro char isHead
      rw [List.head?_append_of_ne_nil _ row.pidWord.1] at isHead
      exact row.pidWord.2 char (List.mem_of_mem_head? isHead)
    · intro char isLast
      apply argsEnd char
      simpa [List.getLast?_append, List.getLast?_eq_some_getLast argsNonempty] using isLast
  rw [line, Text.strip_of_trimmed row.frontBlank trimmed row.backBlank]
  have first := @Text.splitWordsMax_word [] row.pidText
    (row.gap ++ (row.ppidText ++ (row.secondGap ++ row.args))) 1
    (fun _ inNone => absurd inNone List.not_mem_nil) row.pidWord (head_of_blank row.gapBlank)
  rw [List.nil_append] at first
  rw [first, Text.splitWordsMax_word 0 row.gapBlank.2 row.ppidWord
    (head_of_blank row.secondGapBlank),
    Text.splitWordsMax_zero row.secondGapBlank.2 argsNonempty argsStart]

theorem processRow_line (row : TableRow printable) :
    processRow printable row.line = some row.kept := by
  rw [processRow, row.splitWordsMax_line]
  simp only [row.pidReads, row.ppidReads]
  rfl

end TableRow

/-- New keys come in at the end. -/
theorem foldl_rows
    {rows : List (TableRow printable)} {before : ProcessRows}
    (distinct : (rows.map TableRow.pid).Nodup)
    (fresh : ∀ row ∈ rows, row.pid ∉ before.map Prod.fst) :
    (rows.map TableRow.line).foldl
        (fun rows rawLine =>
          match processRow printable rawLine with
          | none => rows
          | some (pid, row) => rows.setItem pid row) before =
      before ++ rows.map TableRow.kept := by
  induction rows generalizing before with
  | nil => rw [List.map_nil, List.foldl_nil, List.map_nil, List.append_nil]
  | cons row rows inductionHypothesis =>
      rw [List.map_cons, List.nodup_cons] at distinct
      rw [List.forall_mem_cons] at fresh
      have added : ProcessRows.setItem before row.pid row.kept.2 = before ++ [row.kept] :=
        if_neg fresh.1
      have stillFresh : ∀ other ∈ rows,
          other.pid ∉ (before ++ [row.kept]).map Prod.fst := by
        intro other present
        rw [List.map_append, List.mem_append, not_or]
        refine ⟨fresh.2 other present, ?_⟩
        rw [List.map_singleton, List.mem_singleton]
        intro same
        apply distinct.1
        exact List.mem_map.mpr ⟨other, present, same⟩
      rw [List.map_cons, List.foldl_cons, row.processRow_line, List.map_cons]
      change List.foldl _ (ProcessRows.setItem before row.pid row.kept.2) _ = _
      rw [added, inductionHypothesis distinct.2 stillFresh, List.append_assoc]
      rfl

/-- The table is kept as it is. -/
theorem processRows_table
    {rows : List (TableRow printable)} {stdout : String}
    (table : Text.splitLines stdout.toList = rows.map TableRow.line)
    (distinct : (rows.map TableRow.pid).Nodup) :
    processRows printable stdout = rows.map TableRow.kept := by
  rw [processRows, table, foldl_rows distinct fun _ _ => List.not_mem_nil]
  rfl

/-! ## Ancestors -/

/-- The processes that are found from the current one by following parents: from its
row, or from what the system says where it has none, down to the process 1. -/
inductive Ancestor
    (rows : List (TableRow printable))
    (currentPid getppid : Int) : Int -> Prop
  | parentOfRow
      {row : TableRow printable}
      (present : row ∈ rows)
      (isCurrent : row.pid = currentPid)
      (runs : 1 < row.ppid) : Ancestor rows currentPid getppid row.ppid
  | parentOfProcess
      (noRow : ∀ row ∈ rows, row.pid ≠ currentPid)
      (runs : 1 < getppid) : Ancestor rows currentPid getppid getppid
  | parentOfAncestor
      {row : TableRow printable}
      (present : row ∈ rows)
      (ancestor : Ancestor rows currentPid getppid row.pid)
      (runs : 1 < row.ppid) : Ancestor rows currentPid getppid row.ppid

section Rows

variable {rows : List (TableRow printable)} (distinct : (rows.map TableRow.pid).Nodup)

include distinct

theorem keys_kept : ((rows.map TableRow.kept).map Prod.fst).Nodup := by
  rw [List.map_map]
  exact distinct

/-- The parent of a row. -/
theorem parent_of_mem
    {row : TableRow printable}
    (present : row ∈ rows)
    (default : Option Int) :
    ProcessRows.parent (rows.map TableRow.kept) row.pid default = some row.ppid := by
  have isEntry : (row.pid, row.kept.2) ∈ rows.map TableRow.kept :=
    List.mem_map.mpr ⟨row, present, rfl⟩
  rw [ProcessRows.parent, Dictionary.lookup_of_mem (keys_kept distinct) isEntry]
  rfl

omit distinct in
theorem parent_of_absent
    {pid : Int}
    (absent : ∀ row ∈ rows, row.pid ≠ pid)
    (default : Option Int) :
    ProcessRows.parent (rows.map TableRow.kept) pid default = default := by
  have notKey : pid ∉ (rows.map TableRow.kept).map Prod.fst := by
    rw [List.map_map]
    intro isKey
    obtain ⟨row, present, isPid⟩ := List.mem_map.mp isKey
    exact absent row present isPid
  rw [ProcessRows.parent, Dictionary.lookup_eq_none notKey]

omit distinct in
/-- A pid has a row or has none. -/
theorem row_cases (rows : List (TableRow printable)) (pid : Int) :
    (∃ row ∈ rows, row.pid = pid) ∨ ∀ row ∈ rows, row.pid ≠ pid := by
  by_cases hasRow : ∃ row ∈ rows, row.pid = pid
  · exact .inl hasRow
  · refine .inr fun row present isPid => hasRow ⟨row, present, isPid⟩

/-- The walk starts in agreement with the links. -/
theorem closed_start (currentPid getppid : Int) :
    (ProcessRows.links (rows.map TableRow.kept)).Closed (fun pid => 1 < pid)
      ([currentPid],
        ProcessRows.parent (rows.map TableRow.kept) currentPid (some getppid)) := by
  intro pid isStart next isLink _
  rw [List.mem_singleton] at isStart
  subst isStart
  right
  change ProcessRows.parent (rows.map TableRow.kept) pid none = some next at isLink
  obtain ⟨row, present, rfl⟩ | absent := row_cases rows pid
  · rw [parent_of_mem distinct present] at isLink ⊢
    exact isLink
  · rw [parent_of_absent absent] at isLink
    cases isLink

/-- The walk reaches the ancestors. -/
theorem reached_iff_ancestor
    {currentPid getppid pid : Int} :
    (ProcessRows.links (rows.map TableRow.kept)).Reached (fun pid => 1 < pid)
        (ProcessRows.parent (rows.map TableRow.kept) currentPid (some getppid)) pid ↔
      Ancestor rows currentPid getppid pid := by
  constructor
  · have onTheWay {start : Option Int}
        (reached : (ProcessRows.links (rows.map TableRow.kept)).Reached
          (fun pid => 1 < pid) start pid)
        (starts : ∀ parent, start = some parent -> 1 < parent ->
          Ancestor rows currentPid getppid parent) :
        Ancestor rows currentPid getppid pid := by
      induction reached with
      | here entered => exact starts _ rfl (of_decide_eq_true entered)
      | @beyond place target entered _ inductionHypothesis =>
          have ancestor := starts place rfl (of_decide_eq_true entered)
          apply inductionHypothesis
          intro parent isLink runs
          change ProcessRows.parent (rows.map TableRow.kept) place none = some parent
            at isLink
          obtain ⟨row, present, rfl⟩ | absent := row_cases rows place
          · rw [parent_of_mem distinct present] at isLink
            cases isLink
            exact .parentOfAncestor present ancestor runs
          · rw [parent_of_absent absent] at isLink
            cases isLink
    intro reached
    apply onTheWay reached
    intro parent isStart runs
    obtain ⟨row, present, isCurrent⟩ | absent := row_cases rows currentPid
    · rw [← isCurrent, parent_of_mem distinct present] at isStart
      cases isStart
      exact .parentOfRow present isCurrent runs
    · rw [parent_of_absent absent] at isStart
      cases isStart
      exact .parentOfProcess absent runs
  · intro ancestor
    induction ancestor with
    | parentOfRow present isCurrent runs =>
        rw [← isCurrent, parent_of_mem distinct present]
        exact .here (decide_eq_true runs)
    | parentOfProcess noRow runs =>
        rw [parent_of_absent noRow]
        exact .here (decide_eq_true runs)
    | parentOfAncestor present _ runs inductionHypothesis =>
        exact inductionHypothesis.next (parent_of_mem distinct present none)
          (decide_eq_true runs)

end Rows

end Table

/-- Of a table, the rows are reported in order that are busy, that are no `ssh`, and
that belong neither to the current process nor to an ancestor.  The walk over the
ancestors ends after at most two passes more than there are rows. -/
theorem listBusyBluetoothProcesses_table
    (printable : Char -> Bool)
    (currentPid : Option Int)
    (getpid getppid : Int)
    (result : CompletedProcess)
    (rows : List (TableRow printable))
    (succeeded : result.returncode = 0)
    (table : Text.splitLines result.stdout.toList = rows.map TableRow.line)
    (distinct : (rows.map TableRow.pid).Nodup) :
    ∃ reported : TableRow printable -> Bool,
      listBusyBluetoothProcesses printable currentPid getpid getppid result =
        (rows.filter reported).map TableRow.displayLine ∧
      (∀ row, reported row = true ↔
        row.Busy ∧ ¬"ssh ".toList <+: row.args ∧ row.pid ≠ currentPid.getD getpid ∧
          ¬Ancestor rows (currentPid.getD getpid) getppid row.pid) ∧
      (runPasses ((processRows printable result.stdout).links.walkBody fun pid => 1 < pid)
        (rows.length + 2)
        ([currentPid.getD getpid], (processRows printable result.stdout).parent
          (currentPid.getD getpid) (some getppid))).isSome := by
  have kept := processRows_table table distinct
  have ignored_iff (pid : Int) :
      pid ∈ ignoredPids (processRows printable result.stdout) (currentPid.getD getpid)
          getppid ↔
        pid = currentPid.getD getpid ∨
          Ancestor rows (currentPid.getD getpid) getppid pid := by
    rw [kept, ignoredPids, Links.mem_walk_iff (closed_start distinct _ _),
      reached_iff_ancestor distinct, List.mem_singleton]
  refine ⟨fun row =>
    row.pid ∉ ignoredPids (processRows printable result.stdout) (currentPid.getD getpid)
        getppid && !"ssh ".toList.isPrefixOf row.args &&
      BUSY_PROCESS_PATTERNS.any fun pattern => Text.contains pattern.toList row.args,
    ?_, ?_, ?_⟩
  · rw [listBusyBluetoothProcesses, if_neg (not_not_intro succeeded)]
    simp only [kept, List.filter_map, List.map_map]
    rfl
  · intro row
    rw [Bool.and_eq_true, Bool.and_eq_true, Bool.not_eq_true', decide_eq_true_eq,
      ignored_iff, not_or, List.any_eq_true, ← Bool.not_eq_true, List.isPrefixOf_iff_prefix]
    constructor
    · rintro ⟨⟨⟨notCurrent, noAncestor⟩, notSsh⟩, busy⟩
      exact ⟨busy, notSsh, notCurrent, noAncestor⟩
    · rintro ⟨busy, notSsh, notCurrent, noAncestor⟩
      exact ⟨⟨⟨notCurrent, noAncestor⟩, notSsh⟩, busy⟩
  · rw [kept]
    have bound : Links.unvisited (ProcessRows.links (rows.map TableRow.kept))
        ([currentPid.getD getpid], ProcessRows.parent (rows.map TableRow.kept)
          (currentPid.getD getpid) (some getppid)) < rows.length + 2 := by
      have unvisited_le := List.length_filter_le
        (fun place => place ∉ [currentPid.getD getpid])
        ((rows.map TableRow.kept).map Prod.fst)
      have places_eq : ((rows.map TableRow.kept).map Prod.fst).length = rows.length := by
        rw [List.length_map, List.length_map]
      have toList_le (start : Option Int) : start.toList.length ≤ 1 := by
        cases start <;> simp
      have startLength := toList_le (ProcessRows.parent (rows.map TableRow.kept)
        (currentPid.getD getpid) (some getppid))
      rw [places_eq] at unvisited_le
      simp only [Links.unvisited, ProcessRows.links]
      omega
    have runs := Loop.runPasses_eq_exec
      ((ProcessRows.links (rows.map TableRow.kept)).walk fun pid => 1 < pid) _ bound
    change (runPasses ((ProcessRows.links (rows.map TableRow.kept)).walk
      fun pid => 1 < pid).body _ _).isSome = true
    rw [runs]
    rfl

/-- A wrapper, its child and the current process are parents of each other in a
circle, and another tool scans. -/
def circle : List (TableRow fun _ => true) :=
  [.ofNumbers 200 202 "timeout uv run bosch-ble-probe".toList (by decide) (by decide)
      (Text.trimmed_of_ends rfl rfl rfl rfl),
    .ofNumbers 201 200 "uv run bosch-ble-probe".toList (by decide) (by decide)
      (Text.trimmed_of_ends rfl rfl rfl rfl),
    .ofNumbers 202 201 "python bosch-ble-probe".toList (by decide) (by decide)
      (Text.trimmed_of_ends rfl rfl rfl rfl),
    .ofNumbers 203 1 "bluetoothctl scan on".toList (by decide) (by decide)
      (Text.trimmed_of_ends rfl rfl rfl rfl)]

/-- The output of `ps` with these rows. -/
def circleResult : CompletedProcess :=
  ⟨["ps", "-eo", "pid=,ppid=,args="], 0,
    "200 202 timeout uv run bosch-ble-probe\n201 200 uv run bosch-ble-probe\n" ++
      "202 201 python bosch-ble-probe\n203 1 bluetoothctl scan on\n", ""⟩

/-- The circle ends the walk, and the scan is the only row that can be reported. -/
theorem listBusyBluetoothProcesses_circle :
    ∃ reported : TableRow (fun _ => true) -> Bool,
      listBusyBluetoothProcesses (fun _ => true) (some 202) 202 201 circleResult =
        (circle.filter reported).map TableRow.displayLine ∧
      (∀ row, reported row = true ↔
        row.Busy ∧ ¬"ssh ".toList <+: row.args ∧ row.pid ≠ 202 ∧
          ¬Ancestor circle 202 201 row.pid) ∧
      (runPasses ((processRows (fun _ => true) circleResult.stdout).links.walkBody
          fun pid => 1 < pid)
        (circle.length + 2)
        ([202], (processRows (fun _ => true) circleResult.stdout).parent 202
          (some 201))).isSome := by
  have table : Text.splitLines circleResult.stdout.toList = circle.map TableRow.line := by
    decide +kernel
  have distinct : (circle.map TableRow.pid).Nodup := by
    decide
  exact listBusyBluetoothProcesses_table (fun _ => true) (some 202) 202 201 circleResult
    circle rfl table distinct

end Bluez
end BoschBle
