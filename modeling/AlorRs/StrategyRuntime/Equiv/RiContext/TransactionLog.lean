import AlorRs.StrategyRuntime.RiContext.TransactionLog
import Mathlib.Logic.Relation

/-!
# Correctness of the transaction log

A directory holds the transactions up to its head (`AtHead`), and what is opened is these
transactions (`AtHead.openLog_eq`).  A log that is open and did not fail is over a directory with
nothing else in it (`Clean`), which opens to the very same log (`Clean.openLog_eq`).  `append` goes
from one such directory to the next with nothing in between (`TransactionLog.wp_append`): the head
is replaced in one step.  A `Generation` is a directory over any number of processes, which may stop
at any step on a file.
-/

namespace AlorRs.RiContext

open Eff Outcome TransactionLog

variable {D T : Type} [LogRecord T] {text : LogText D T} {header : D} {transactions : List T}
  {dir dir' : LogDirectory D T} {disk : LogDisk D T} {log : TransactionLog}

/-! ### What a directory holds -/

/-- A name that is not a temporary one. -/
def LogName.IsKept (name : LogName) : Prop := ∀ id, name ≠ .temporary id

omit [LogRecord T] in
theorem not_isKept_temporary {id : ℕ} : ¬(LogName.temporary id).IsKept := fun h => h id rfl

/-- The head of some transactions. -/
def headOf (text : LogText D T) (header : D) (transactions : List T) : Head :=
  ⟨transactions.length, previousOf text (text.header header) transactions⟩

/-- The transactions up to the head of a directory. -/
structure AtHead (text : LogText D T) (header : D) (transactions : List T)
    (dir : LogDirectory D T) : Prop where
  lock : dir.lookup .lock = some .lock
  manifest : dir.lookup .manifest = some (.manifest ⟨header, text.header header⟩)
  head : dir.lookup .head = some (.head ⟨headOf text header transactions,
    text.head (headOf text header transactions)⟩)
  entries : ∀ i tx, transactions[i]? = some tx →
    dir.lookup (.entry (i + 1)) = some (.entry ⟨tx, text.record tx⟩)
  sizes : ∀ tx ∈ transactions, text.size (.entry ⟨tx, text.record tx⟩) ≤ maxFile
  chain : ∀ i tx, transactions[i]? = some tx → LogRecord.index tx = i + 1 ∧
    LogRecord.previousSha256 tx = previousOf text (text.header header) (transactions.take i)

theorem AtHead.keeps (h : AtHead text header transactions dir)
    (hkeeps : Disk.Keeps LogName.IsKept dir dir') : AtHead text header transactions dir' where
  lock := hkeeps _ _ (fun _ => nofun) h.lock
  manifest := hkeeps _ _ (fun _ => nofun) h.manifest
  head := hkeeps _ _ (fun _ => nofun) h.head
  entries i tx htx := hkeeps _ _ (fun _ => nofun) (h.entries i tx htx)
  sizes := h.sizes
  chain := h.chain

/-- The names of some transactions, from one of them on. -/
def entryNames (start n : ℕ) : List LogName := (List.range' start n).map .entry

/-- A log that is open, over a directory that holds nothing but its transactions. -/
structure Clean (text : LogText D T) (header : D) (transactions : List T)
    (dir : LogDirectory D T) (log : TransactionLog) : Prop where
  genesis : log.genesis = text.header header
  hashes : log.hashes = transactions.map text.record
  healthy : log.failed = false
  names : dir.keys.Perm (.lock :: .manifest :: .head :: entryNames 1 transactions.length)
  sizes : Directory.All (text.fileSize · ≤ maxFile) dir
  total : Directory.total text.fileSize dir = log.bytes
  limit : log.bytes ≤ maxTotal
  count : transactions.length ≤ maxTransactions

/-! ### Reading -/

/-- A file that was written whole is read as what it is of, unless it is too large. -/
theorem read_checked {V : Type} {digest : V → String} {v found : V} {size : ℕ} :
    LogText.read digest (some (⟨v, digest v⟩, size)) = .ok found ↔ found = v ∧ size ≤ maxFile := by
  unfold LogText.read
  rw [ensure_bind_eq_ok, ensure_bind_eq_ok]
  simp only [decide_eq_true_eq]
  constructor
  · rintro ⟨hsize, -, hreturn⟩
    exact ⟨(Except.ok.inj hreturn).symm, hsize⟩
  · rintro ⟨rfl, hsize⟩
    exact ⟨hsize, trivial, rfl⟩

theorem AtHead.readManifest (h : AtHead text header transactions dir) {found : D} :
    text.readManifest dir = .ok found ↔
      found = header ∧ text.size (.manifest ⟨header, text.header header⟩) ≤ maxFile := by
  unfold LogText.readManifest
  rw [h.manifest, read_checked]

theorem AtHead.readHead (h : AtHead text header transactions dir) {found : Head} :
    text.readHead dir = .ok found ↔ found = headOf text header transactions ∧
      text.size (.head ⟨headOf text header transactions,
        text.head (headOf text header transactions)⟩) ≤ maxFile := by
  unfold LogText.readHead
  rw [h.head, read_checked]

theorem AtHead.readEntry (h : AtHead text header transactions dir) {i : ℕ} {tx : T}
    (htx : transactions[i]? = some tx) {found : T} :
    text.readEntry dir (i + 1) = .ok found ↔ found = tx := by
  unfold LogText.readEntry
  rw [h.entries i tx htx, read_checked]
  exact and_iff_left (h.sizes tx (List.mem_of_getElem? htx))

/-- What was released can be read. -/
theorem AtHead.read_eq (h : AtHead text header transactions dir)
    (hclean : Clean text header transactions dir log) {i : ℕ} {tx : T}
    (htx : transactions[i]? = some tx) : log.read text dir (i + 1) = .ok tx := by
  have hlt := (List.getElem?_eq_some_iff.mp htx).1
  unfold TransactionLog.read TransactionLog.healthy TransactionLog.count
  rw [ensure_bind_eq_ok, ensure_bind_eq_ok, hclean.healthy, hclean.hashes,
    (h.readEntry htx).mpr rfl]
  refine ⟨rfl, ?_, ensure_bind_eq_ok.mpr ⟨?_, rfl⟩⟩
  · simp only [List.length_map, Bool.and_eq_true, decide_eq_true_eq]
    omega
  · rw [Nat.add_sub_cancel, List.getElem?_map, htx]
    exact decide_eq_true rfl

/-! ### Opening -/

section Open

variable {opening opening' : LogOpening T} {n : ℕ}

omit [LogRecord T] in
/-- What was read so far is one transaction longer. -/
theorem take_concat {i : ℕ} {tx : T} (htx : transactions[i]? = some tx) :
    transactions.take i ++ [tx] = transactions.take (i + 1) := by
  rw [List.take_add_one, htx]
  rfl

/-- The transactions are read one after the other, and their names taken away. -/
theorem AtHead.readEntries_eq_ok (h : AtHead text header transactions dir)
    (hread : readEntries text dir (text.header header) n opening = .ok opening') {i : ℕ}
    (hbefore : opening.transactions = transactions.take i) (hlength : i + n = transactions.length) :
    opening'.transactions = transactions ∧
      opening.names.Perm (entryNames (i + 1) n ++ opening'.names) := by
  induction n generalizing opening i with
  | zero =>
    obtain rfl := Except.ok.inj hread
    exact ⟨by rw [hbefore, List.take_of_length_le (by omega)], .refl _⟩
  | succ n ih =>
    have hi : opening.transactions.length = i := by
      rw [hbefore, List.length_take]
      omega
    unfold TransactionLog.readEntries at hread
    dsimp only at hread
    rw [hi] at hread
    obtain ⟨hmem, hread⟩ := ensure_bind_eq_ok.mp hread
    obtain ⟨tx, htx, hread⟩ := bind_eq_ok.mp hread
    obtain ⟨-, hread⟩ := ensure_bind_eq_ok.mp hread
    have hnext := List.getElem?_eq_getElem (show i < transactions.length by omega)
    obtain rfl := (h.readEntry hnext).mp htx
    obtain ⟨htransactions, hnames⟩ := ih hread (by rw [hbefore, take_concat hnext]) (by omega)
    refine ⟨htransactions, (List.perm_cons_erase (of_decide_eq_true hmem)).trans ?_⟩
    exact hnames.cons _

/-- In a directory with all transactions, all are read. -/
theorem AtHead.readEntries (h : AtHead text header transactions dir) {i : ℕ}
    (hbefore : opening.transactions = transactions.take i) (hlength : i + n = transactions.length)
    (hnames : opening.names.Perm (entryNames (i + 1) n)) :
    TransactionLog.readEntries text dir (text.header header) n opening =
      .ok ⟨[], transactions⟩ := by
  induction n generalizing opening i with
  | zero =>
    obtain ⟨names, read⟩ := opening
    obtain rfl : names = [] := hnames.eq_nil
    obtain rfl : read = transactions := by
      rw [show read = transactions.take i from hbefore, List.take_of_length_le (by omega)]
    rfl
  | succ n ih =>
    have hi : opening.transactions.length = i := by
      rw [hbefore, List.length_take]
      omega
    have hnext := List.getElem?_eq_getElem (show i < transactions.length by omega)
    obtain ⟨hindex, hprevious⟩ := h.chain i _ hnext
    have hmem : LogName.entry (i + 1) ∈ opening.names := hnames.mem_iff.mpr List.mem_cons_self
    unfold TransactionLog.readEntries
    dsimp only
    rw [hi, ensure_bind_eq_ok, (h.readEntry hnext).mpr rfl]
    refine ⟨decide_eq_true hmem, ensure_bind_eq_ok.mpr ⟨?_, ?_⟩⟩
    · rw [hbefore, hindex, hprevious]
      simp only [decide_true, Bool.and_self]
    · refine ih (by rw [hbefore, take_concat hnext]) (by omega) ?_
      have herase := hnames.erase (LogName.entry (i + 1))
      rwa [show entryNames (i + 1) (n + 1) = .entry (i + 1) :: entryNames (i + 1 + 1) n from rfl,
        List.erase_cons_head] at herase

/-- What is opened is the transactions up to the head, over a directory without any other file. -/
theorem AtHead.openLog_eq [DecidableEq D] (h : AtHead text header transactions dir) {expected : D}
    {opened : List T} (hopen : openLog text dir expected = .ok (log, opened)) :
    expected = header ∧ opened = transactions ∧ Clean text header transactions dir log := by
  unfold openLog at hopen
  obtain ⟨_, hfiles, hopen⟩ := bind_eq_ok.mp hopen
  obtain ⟨found, hfound, hopen⟩ := bind_eq_ok.mp hopen
  obtain ⟨hexpected, hopen⟩ := ensure_bind_eq_ok.mp hopen
  obtain ⟨head, hhead, hopen⟩ := bind_eq_ok.mp hopen
  obtain ⟨hcount, hopen⟩ := ensure_bind_eq_ok.mp hopen
  obtain ⟨opening, hopening, hopen⟩ := bind_eq_ok.mp hopen
  obtain ⟨-, hopen⟩ := ensure_bind_eq_ok.mp hopen
  obtain ⟨hempty, hreturn⟩ := ensure_bind_eq_ok.mp hopen
  obtain rfl := (h.readManifest.mp hfound).1
  obtain rfl := (h.readHead.mp hhead).1
  obtain rfl := of_decide_eq_true hexpected
  obtain ⟨rfl, hnames⟩ := h.readEntries_eq_ok hopening (i := 0) rfl (Nat.zero_add _)
  obtain ⟨rfl, rfl⟩ := Prod.mk.inj (Except.ok.inj hreturn)
  unfold checkFiles at hfiles
  obtain ⟨hsizes, hfiles⟩ := ensure_bind_eq_ok.mp hfiles
  obtain ⟨htotal, -⟩ := ensure_bind_eq_ok.mp hfiles
  refine ⟨rfl, rfl, rfl, rfl, rfl, ?_, ?_, rfl, of_decide_eq_true htotal,
    of_decide_eq_true hcount⟩
  · have hmem : ∀ {name content}, dir.lookup name = some content → name ∈ dir.keys :=
      fun hlookup => Directory.mem_keys_iff.mpr (by rw [hlookup]; rfl)
    have hmanifest : LogName.manifest ∈ dir.keys.erase .lock :=
      (List.mem_erase_of_ne (by nofun)).mpr (hmem h.manifest)
    have hhead : LogName.head ∈ (dir.keys.erase .lock).erase .manifest :=
      (List.mem_erase_of_ne (by nofun)).mpr ((List.mem_erase_of_ne (by nofun)).mpr (hmem h.head))
    refine (List.perm_cons_erase (hmem h.lock)).trans (.cons _ ?_)
    refine (List.perm_cons_erase hmanifest).trans (.cons _ ?_)
    refine (List.perm_cons_erase hhead).trans (.cons _ ?_)
    rwa [List.isEmpty_iff.mp hempty, List.append_nil] at hnames
  · intro name content hlookup
    have hname := List.all_eq_true.mp hsizes name
      (Directory.mem_keys_iff.mpr (by rw [hlookup]; rfl))
    rw [hlookup] at hname
    exact of_decide_eq_true hname

/-- A log that did not fail is opened again as it is. -/
theorem Clean.openLog_eq [DecidableEq D] (hclean : Clean text header transactions dir log)
    (h : AtHead text header transactions dir) :
    openLog text dir header = .ok (log, transactions) := by
  have hkeys : ∀ {name}, name ∈ dir.keys ↔
      name ∈ LogName.lock :: .manifest :: .head :: entryNames 1 transactions.length :=
    hclean.names.mem_iff
  have herase := ((hclean.names.erase .lock).erase .manifest).erase .head
  have hfiles : checkFiles text dir = .ok () := by
    unfold checkFiles
    refine ensure_bind_eq_ok.mpr ⟨?_, ensure_bind_eq_ok.mpr ⟨?_, ensure_bind_eq_ok.mpr ⟨?_, ?_⟩⟩⟩
    · refine List.all_eq_true.mpr fun name _ => ?_
      cases hlookup : dir.lookup name with
      | none => rfl
      | some content => exact decide_eq_true (hclean.sizes name content hlookup)
    · rw [hclean.total]
      exact decide_eq_true hclean.limit
    · rw [(hclean.names.erase .lock).length_eq, List.erase_cons_head]
      have hcount := hclean.count
      unfold entryNames
      simp only [List.length_cons, List.length_map, List.length_range', decide_eq_true_eq]
      omega
    · rw [ensure_eq_ok, Bool.and_eq_true]
      exact ⟨decide_eq_true (hkeys.mpr (by simp)), decide_eq_true (hkeys.mpr (by simp))⟩
  unfold openLog
  refine bind_eq_ok.mpr ⟨(), hfiles, bind_eq_ok.mpr ⟨header, ?_, ?_⟩⟩
  · exact h.readManifest.mpr ⟨rfl, hclean.sizes _ _ h.manifest⟩
  refine ensure_bind_eq_ok.mpr ⟨decide_eq_true rfl, bind_eq_ok.mpr
    ⟨headOf text header transactions, ?_, ?_⟩⟩
  · exact h.readHead.mpr ⟨rfl, hclean.sizes _ _ h.head⟩
  refine ensure_bind_eq_ok.mpr ⟨decide_eq_true hclean.count, bind_eq_ok.mpr ⟨⟨[], transactions⟩,
    h.readEntries (i := 0) rfl (Nat.zero_add _) herase, ?_⟩⟩
  refine ensure_bind_eq_ok.mpr ⟨decide_eq_true rfl, ensure_bind_eq_ok.mpr ⟨rfl, ?_⟩⟩
  rw [← hclean.genesis, ← hclean.hashes, hclean.total, ← hclean.healthy]
  rfl

end Open

/-! ### Appending -/

section Append

variable {tx : T} {next : Head × ℕ} {old : LogContent D T} {published : LogDirectory D T}

/-- What `append` found of a transaction, and of the sizes of the files. -/
structure IsNext (text : LogText D T) (log : TransactionLog) (old : LogContent D T) (tx : T)
    (next : Head × ℕ) : Prop where
  healthy : log.failed = false
  count : log.hashes.length < maxTransactions
  index : LogRecord.index tx = log.hashes.length + 1
  previous : LogRecord.previousSha256 tx = log.head
  head : next.1 = ⟨LogRecord.index tx, text.record tx⟩
  entrySize : text.size (.entry ⟨tx, text.record tx⟩) ≤ maxFile
  headSize : text.size (.head ⟨next.1, text.head next.1⟩) ≤ maxFile
  oldSize : text.fileSize old ≤ log.bytes
  limit : log.bytes + text.size (.entry ⟨tx, text.record tx⟩) +
    text.size (.head ⟨next.1, text.head next.1⟩) ≤ maxTotal
  bytes : next.2 = log.bytes - text.fileSize old + text.size (.entry ⟨tx, text.record tx⟩) +
    text.size (.head ⟨next.1, text.head next.1⟩)

omit [LogRecord T] in
theorem encode_eq_ok {content : LogContent D T} {bytes : ℕ} (h : text.encode content = .ok bytes) :
    text.size content ≤ maxFile ∧ bytes = text.size content := by
  obtain ⟨hsize, hreturn⟩ := ensure_bind_eq_ok.mp h
  exact ⟨of_decide_eq_true hsize, (Except.ok.inj hreturn).symm⟩

theorem isNext_of_nextHead (hold : dir.lookup .head = some old)
    (h : log.nextHead text dir tx = .ok next) : IsNext text log old tx next := by
  unfold nextHead TransactionLog.healthy TransactionLog.count at h
  obtain ⟨hhealthy, h⟩ := ensure_bind_eq_ok.mp h
  obtain ⟨hcount, h⟩ := ensure_bind_eq_ok.mp h
  obtain ⟨hchain, h⟩ := ensure_bind_eq_ok.mp h
  obtain ⟨_, hentry, h⟩ := bind_eq_ok.mp h
  obtain ⟨_, hhead, h⟩ := bind_eq_ok.mp h
  obtain ⟨hentrySize, rfl⟩ := encode_eq_ok hentry
  obtain ⟨hheadSize, rfl⟩ := encode_eq_ok hhead
  rw [hold] at h
  dsimp only at h
  obtain ⟨_, -, h⟩ := bind_eq_ok.mp h
  obtain ⟨-, h⟩ := ensure_bind_eq_ok.mp h
  obtain ⟨holdSize, h⟩ := ensure_bind_eq_ok.mp h
  obtain ⟨hlimit, hreturn⟩ := ensure_bind_eq_ok.mp h
  obtain rfl := Except.ok.inj hreturn
  simp only [Bool.and_eq_true, Bool.not_eq_true', decide_eq_true_eq] at *
  exact ⟨hhealthy, hcount, hchain.1, hchain.2, rfl, hentrySize, hheadSize, holdSize, hlimit, rfl⟩

/-- The head that takes the place of the one before it, over one more transaction. -/
theorem AtHead.concat (h : AtHead text header transactions dir)
    (hclean : Clean text header transactions dir log) (hnext : IsNext text log old tx next)
    (hentry : published.lookup (.entry (transactions.length + 1)) =
      some (.entry ⟨tx, text.record tx⟩))
    (hpublished : AtHead text header transactions published)
    (hdir' : ∀ name, dir'.lookup name =
      (published.insert .head (.head ⟨next.1, text.head next.1⟩)).lookup name) :
    AtHead text header (transactions ++ [tx]) dir' := by
  have hlength : log.hashes.length = transactions.length := by
    rw [hclean.hashes, List.length_map]
  have hindex : LogRecord.index tx = transactions.length + 1 := by
    rw [hnext.index, hlength]
  have hhead : headOf text header (transactions ++ [tx]) = next.1 := by
    rw [hnext.head, hindex]
    unfold headOf previousOf
    rw [List.map_append, List.map_singleton, List.getLast?_concat, List.length_append]
    rfl
  have hother : ∀ name ≠ LogName.head, dir'.lookup name = published.lookup name := by
    intro name hne
    rw [hdir', AList.lookup_insert_ne hne]
  -- a transaction is one of those before or the new one
  have hcases : ∀ {i : ℕ} {other : T}, (transactions ++ [tx])[i]? = some other →
      transactions[i]? = some other ∨ i = transactions.length ∧ other = tx := by
    intro i other hsome
    rcases Nat.lt_or_ge i transactions.length with hlt | hge
    · rw [List.getElem?_append_left hlt] at hsome
      exact .inl hsome
    · have hi := (List.getElem?_eq_some_iff.mp hsome).1
      rw [List.length_append, List.length_singleton] at hi
      obtain rfl : i = transactions.length := by omega
      rw [List.getElem?_concat_length] at hsome
      exact .inr ⟨rfl, (Option.some.inj hsome).symm⟩
  refine ⟨?_, ?_, ?_, ?_, ?_, ?_⟩
  · rw [hother .lock nofun, hpublished.lock]
  · rw [hother .manifest nofun, hpublished.manifest]
  · rw [hhead, hdir', AList.lookup_insert]
  · intro i other hsome
    rw [hother (.entry (i + 1)) nofun]
    rcases hcases hsome with hbefore | ⟨rfl, rfl⟩
    · exact hpublished.entries i other hbefore
    · exact hentry
  · intro other hmem
    rcases List.mem_append.mp hmem with hbefore | hlast
    · exact h.sizes other hbefore
    · exact List.mem_singleton.mp hlast ▸ hnext.entrySize
  · intro i other hsome
    rcases hcases hsome with hbefore | ⟨rfl, rfl⟩
    · rw [List.take_append_of_le_length (List.getElem?_eq_some_iff.mp hbefore).1.le]
      exact h.chain i other hbefore
    · rw [List.take_append_of_le_length le_rfl, List.take_length]
      refine ⟨hindex, hnext.previous.trans ?_⟩
      unfold TransactionLog.head previousOf
      rw [hclean.hashes, hclean.genesis]

/-- A log over one more transaction, and the sizes of its files. -/
theorem Clean.concat (hclean : Clean text header transactions dir log)
    (hold : dir.lookup .head = some old)
    (hnext : IsNext text log old tx next)
    (hadds : Disk.Adds dir (.entry (transactions.length + 1)) (.entry ⟨tx, text.record tx⟩)
      published)
    (hdir' : ∀ name, dir'.lookup name =
      (published.insert .head (.head ⟨next.1, text.head next.1⟩)).lookup name) :
    Clean text header (transactions ++ [tx]) dir'
      { log with hashes := log.hashes ++ [text.record tx], bytes := next.2 } := by
  have hhead : published.lookup .head = some old := by
    rw [hadds.lookup_of_ne (by nofun), hold]
  have hsize : Directory.total text.fileSize
      (published.insert .head (.head ⟨next.1, text.head next.1⟩)) + text.fileSize old =
        Directory.total text.fileSize published +
          text.fileSize (.head ⟨next.1, text.head next.1⟩) :=
    Directory.total_insert_of_lookup hhead
  rw [hadds.total, hclean.total, ← Directory.total_congr hdir'] at hsize
  have hbytes := hnext.bytes
  have holdSize := hnext.oldSize
  have hlimit := hnext.limit
  refine ⟨hclean.genesis, ?_, hclean.healthy, ?_, ?_, ?_, ?_, ?_⟩
  · show log.hashes ++ [text.record tx] = _
    rw [hclean.hashes, List.map_append, List.map_singleton]
  · have hmem : LogName.head ∈ published.keys :=
      Directory.mem_keys_iff.mpr (by rw [hhead]; rfl)
    have hkeys : dir'.keys.Perm (.entry (transactions.length + 1) :: dir.keys) := by
      refine (Directory.keys_perm hdir').trans ?_
      rw [AList.keys_insert]
      refine (List.perm_cons_erase hmem).symm.trans ((Directory.keys_perm hadds.2).trans ?_)
      rw [Directory.keys_insert_of_notMem hadds.1]
    have hnames : entryNames 1 (transactions ++ [tx]).length =
        entryNames 1 transactions.length ++ [.entry (transactions.length + 1)] := by
      unfold entryNames
      rw [List.length_append, List.length_singleton, List.range'_1_concat, List.map_append,
        List.map_singleton, Nat.add_comm 1]
    rw [hnames]
    refine hkeys.trans ((hclean.names.cons _).trans ?_)
    exact List.perm_append_singleton _
      (LogName.lock :: .manifest :: .head :: entryNames 1 transactions.length) |>.symm
  · exact (hclean.sizes.insert hadds.2 hnext.entrySize).insert hdir' hnext.headSize
  · have hentry : text.fileSize (.entry ⟨tx, text.record tx⟩) =
      text.size (.entry ⟨tx, text.record tx⟩) := rfl
    have hnew : text.fileSize (.head ⟨next.1, text.head next.1⟩) =
      text.size (.head ⟨next.1, text.head next.1⟩) := rfl
    show _ = next.2
    omega
  · show next.2 ≤ maxTotal
    omega
  · rw [List.length_append, List.length_singleton]
    have hcount := hnext.count
    rw [hclean.hashes, List.length_map] at hcount
    omega

/-- A transaction is appended, and at every step the directory holds those before it or it too. -/
theorem TransactionLog.wp_append {ids : ℕ × ℕ} (h : AtHead text header transactions disk.dir)
    (hclean : log.failed = false → Clean text header transactions disk.dir log) :
    wp (log.append text tx ids) () disk
      (fun log' disk' => AtHead text header (transactions ++ [tx]) disk'.dir ∧
        Clean text header (transactions ++ [tx]) disk'.dir log' ∧
          Disk.Steps (fun dir => AtHead text header transactions dir ∨
            AtHead text header (transactions ++ [tx]) dir) disk disk')
      (fun _ disk' => Disk.Steps (fun dir => AtHead text header transactions dir ∨
        AtHead text header (transactions ++ [tx]) dir) disk disk') := by
  unfold append
  rw [wp_bind, wp_get, wp_bind, wp_ofExcept]
  refine ⟨?_, fun _ _ => .refl disk⟩
  rintro ⟨head, bytes⟩ hok
  have hnext := isNext_of_nextHead h.head hok
  have hopen := hclean hnext.healthy
  have hindex : LogRecord.index tx = transactions.length + 1 := by
    rw [hnext.index, hopen.hashes, List.length_map]
  dsimp only
  rw [wp_bind, hindex]
  refine wp_mono (wp_and Disk.wp_publish
    (Disk.within_publish (p := LogName.IsKept) not_isKept_temporary disk)) ?_ ?_
  · rintro _ published ⟨⟨hadds, -⟩, hkept, hsteps⟩
    have hbefore := hsteps.mono fun dir hkeeps => Or.inl (b := AtHead text header
      (transactions ++ [tx]) dir) (h.keeps hkeeps)
    rw [wp_bind]
    refine wp_mono Disk.wp_replace ?_ ?_
    · rintro _ disk' ⟨hdir', htemporary, hlast⟩
      have hat := h.concat hopen hnext hadds.lookup_self (h.keeps hkept) hdir'
      refine ⟨hat, hopen.concat h.head hnext hadds hdir', hbefore.trans ⟨_, hlast, ?_⟩⟩
      -- the last step is the release
      intro dir hmem
      rcases List.mem_cons.mp hmem with rfl | hmem
      · exact .inl (h.keeps (hkept.trans (Disk.keeps_insert htemporary)))
      · exact List.mem_singleton.mp hmem ▸ .inr hat
    · rintro _ disk' rfl
      exact hbefore
  · rintro _ disk' ⟨-, -, hsteps⟩
    exact hsteps.mono fun _ hkeeps => .inl (h.keeps hkeeps)

end Append

/-! ### Failing and creating -/

omit [LogRecord T] in
/-- The mark of a failure leaves every file as it is. -/
theorem TransactionLog.wp_fail {error : String} {id : ℕ} :
    wp (log.fail text error id) () disk (fun _ => Disk.Grows (fun _ => True) disk)
      (fun _ => Disk.Grows (fun _ => True) disk) := by
  unfold TransactionLog.fail
  rw [wp_bind, wp_attempt, wp_bind, wp_ofExcept]
  refine ⟨fun _ _ => ?_, fun _ _ => refl_of (Disk.Grows fun _ => True) disk⟩
  exact wp_mono (Disk.within_publish_keeps disk) (fun _ _ hgrows => hgrows) fun _ _ hgrows => hgrows

/-- A log that has failed does not touch its directory. -/
theorem append_failed {tx : T} {ids : ℕ × ℕ} (h : log.failed = true) :
    (log.append text tx ids).run () disk =
      (.error "shadow runner failed; explicit generation recovery required", disk) := by
  unfold append nextHead TransactionLog.healthy
  rw [run_get_bind, run_ofExcept_bind, h]
  rfl

/-- Wherever `append` stops, its transaction is released or it is not. -/
theorem stopped_append {tx : T} {ids : ℕ × ℕ} (hat : AtHead text header transactions dir)
    (hclean : log.failed = false → Clean text header transactions dir log)
    (h : dir' ∈ dir :: ((log.append text tx ids).post () ⟨dir, []⟩).steps) :
    AtHead text header transactions dir' ∨ AtHead text header (transactions ++ [tx]) dir' := by
  have hsteps : Disk.Steps (fun dir => AtHead text header transactions dir ∨
      AtHead text header (transactions ++ [tx]) dir) ⟨dir, []⟩
        ((log.append text tx ids).post () ⟨dir, []⟩) :=
    wp_post (wp_mono (TransactionLog.wp_append hat hclean) (fun _ _ h => h.2.2) fun _ _ h => h)
  exact hsteps.forall_mem (.inl hat) dir' h

omit [LogRecord T] in
theorem stopped_fail {error : String} {id : ℕ}
    (h : dir' ∈ dir :: ((log.fail text error id).post () ⟨dir, []⟩).steps) :
    Disk.Keeps (fun _ => True) dir dir' := by
  have hgrows : Disk.Grows (fun _ => True) ⟨dir, []⟩
      ((log.fail text error id).post () ⟨dir, []⟩) := wp_post TransactionLog.wp_fail
  exact hgrows.2.forall_mem (.refl dir) dir' h

omit [LogRecord T] in
/-- A log that has failed is not one that has not. -/
theorem clean_of_failed {log' : TransactionLog}
    (h : some { log with failed := true } = some log') (hhealthy : log'.failed = false) :
    Clean text header transactions dir log' := by
  obtain rfl := Option.some.inj h
  exact (nomatch hhealthy)

/-- A directory on the way to a new log: there is no head yet, or no transaction up to it. -/
def Starting (text : LogText D T) (header : D) (dir : LogDirectory D T) : Prop :=
  .head ∉ dir ∨ AtHead text header [] dir

omit [LogRecord T] in
/-- The mark of its process is all that is in a new directory. -/
theorem notMem_lock {name : LogName} (h : name ≠ .lock) :
    name ∉ ((∅ : LogDirectory D T).insert .lock .lock) := by
  intro hmem
  rcases (AList.mem_insert _).mp hmem with heq | hempty
  · exact h heq
  · exact AList.notMem_empty _ hempty

omit [LogRecord T] in
/-- On the way to the manifest there is no head. -/
theorem head_notMem_of_publishing {id : ℕ} {content : LogContent D T}
    (h : Disk.Publishing (.temporary id) .manifest content
      ((∅ : LogDirectory D T).insert .lock .lock) dir) : .head ∉ dir := by
  intro hmem
  rcases h .head nofun with hsame | ⟨hname, -⟩
  · rw [← AList.lookup_isSome, hsame, AList.lookup_isSome] at hmem
    exact notMem_lock (by nofun) hmem
  · exact (nomatch hname)

/-- On the way to the first head there is no transaction up to it. -/
theorem starting_of_publishing {id : ℕ} (hlock : dir.lookup .lock = some .lock)
    (hmanifest : dir.lookup .manifest = some (.manifest ⟨header, text.header header⟩))
    (hhead : .head ∉ dir)
    (h : Disk.Publishing (.temporary id) .head
      (.head ⟨⟨0, text.header header⟩, text.head ⟨0, text.header header⟩⟩) dir dir') :
    Starting text header dir' := by
  have hkeeps := h.keeps (p := LogName.IsKept) not_isKept_temporary
  rcases h .head nofun with hsame | ⟨-, -, hhead⟩
  · refine .inl fun hmem => hhead ?_
    rw [← AList.lookup_isSome, ← hsame, AList.lookup_isSome]
    exact hmem
  · exact .inr ⟨hkeeps _ _ (fun _ => nofun) hlock, hkeeps _ _ (fun _ => nofun) hmanifest, hhead,
      fun _ _ htx => (nomatch htx), fun _ hmem => (nomatch hmem), fun _ _ htx => (nomatch htx)⟩

theorem TransactionLog.wp_create {ids : ℕ × ℕ} :
    wp (TransactionLog.create text header ids) () ⟨∅, []⟩
      (fun log disk' => (AtHead text header [] disk'.dir ∧ Clean text header [] disk'.dir log) ∧
        Disk.Steps (Starting text header) ⟨∅, []⟩ disk')
      (fun _ disk' => Disk.Steps (Starting text header) ⟨∅, []⟩ disk') := by
  unfold TransactionLog.create Disk.step
  rw [wp_bind, wp_modify, wp_bind, wp_ofExcept]
  have hstart : Disk.Steps (Starting text header) ⟨∅, []⟩
      ⟨(∅ : LogDirectory D T).insert .lock .lock, [(∅ : LogDirectory D T).insert .lock .lock]⟩ :=
    ⟨[_], rfl, fun dir hdir => List.mem_singleton.mp hdir ▸ .inl (notMem_lock nofun)⟩
  refine ⟨fun bytes hbytes => ?_, fun _ _ => hstart⟩
  obtain ⟨hsize, rfl⟩ := encode_eq_ok hbytes
  rw [wp_bind]
  refine wp_mono (wp_and Disk.wp_publish Disk.wp_publish_steps) ?_ ?_
  · rintro _ between ⟨⟨hadds, -⟩, hbetween, hsteps⟩
    have hsteps := hstart.trans (hsteps.mono fun dir h => Or.inl (head_notMem_of_publishing h))
    rw [wp_bind, wp_ofExcept]
    refine ⟨fun headBytes hheadBytes => ?_, fun _ _ => hsteps⟩
    obtain ⟨hheadSize, rfl⟩ := encode_eq_ok hheadBytes
    rw [wp_bind]
    have hlock : between.dir.lookup .lock = some .lock := by
      rw [hadds.lookup_of_ne (by nofun), AList.lookup_insert]
    have hsecond {dir : LogDirectory D T} := @starting_of_publishing D T _ text header between.dir
      dir ids.2 hlock hadds.lookup_self (head_notMem_of_publishing hbetween)
    refine wp_mono (wp_and Disk.wp_publish Disk.wp_publish_steps) ?_ ?_
    · rintro _ disk' ⟨⟨hhead, -⟩, hdir, hlast⟩
      refine ⟨⟨(hsecond hdir).resolve_left (not_not_intro hhead.mem_self), rfl, rfl, rfl, ?_, ?_,
        ?_, ?_, Nat.zero_le _⟩, hsteps.trans (hlast.mono fun _ h => hsecond h)⟩
      · refine (Directory.keys_perm hhead.2).trans ?_
        rw [Directory.keys_insert_of_notMem hhead.1]
        refine ((Directory.keys_perm hadds.2).cons _).trans ?_
        rw [Directory.keys_insert_of_notMem hadds.1]
        show [LogName.head, .manifest, .lock].Perm [.lock, .manifest, .head]
        decide
      · have hempty : Directory.All (text.fileSize · ≤ maxFile) (∅ : LogDirectory D T) :=
          fun _ _ hlookup => (nomatch hlookup)
        have hlock : Directory.All (text.fileSize · ≤ maxFile)
            ((∅ : LogDirectory D T).insert .lock .lock) :=
          hempty.insert (fun _ => rfl) (Nat.zero_le _)
        exact (hlock.insert hadds.2 hsize).insert hhead.2 hheadSize
      · rw [hhead.total, hadds.total]
        show 0 + _ + _ = _ + _
        rw [Nat.zero_add]
        rfl
      · show _ + _ ≤ maxTotal
        unfold maxTotal
        unfold maxFile at hsize hheadSize
        omega
    · rintro _ disk' ⟨-, -, hlast⟩
      exact hsteps.trans (hlast.mono fun _ h => hsecond h)
  · rintro _ between ⟨-, -, hsteps⟩
    exact hstart.trans (hsteps.mono fun _ h => .inl (head_notMem_of_publishing h))

/-! ### Files that were not released -/

/-- A file that the head does not release: a mark of a failure, one that was left half done, a
transaction that the head does not count. -/
def IsStray (dir : LogDirectory D T) (name : LogName) : Prop :=
  name ∈ dir ∧ name ∉ [LogName.lock, .manifest, .head] ∧
    ∀ saved, dir.lookup .head = some (.head saved) → name ∉ entryNames 1 saved.payload.index

theorem IsStray.notMem {name : LogName} (h : IsStray dir name)
    (hat : AtHead text header transactions dir) :
    name ∉ LogName.lock :: .manifest :: .head :: entryNames 1 transactions.length :=
  fun hmem =>
    (List.mem_append.mp (show name ∈ [LogName.lock, .manifest, .head] ++ _ from hmem)).elim h.2.1
      (h.2.2 _ hat.head)

/-- Such a file is never in the directory of a log that can still be used. -/
theorem Clean.not_isStray {name : LogName} (hclean : Clean text header transactions dir log)
    (hat : AtHead text header transactions dir) : ¬IsStray dir name :=
  fun h => h.notMem hat (hclean.names.mem_iff.mp (AList.mem_keys.mp h.1))

/-! ### Generations -/

/-- A directory over any number of processes: the log of the one that has it open, what was handed
to `append` and what `append` returned well for. -/
structure Generation (D T : Type) where
  dir : LogDirectory D T
  log : Option TransactionLog
  handed : List T
  released : List T

namespace Generation

variable (text header) in
/-- A new generation, or one whose process stopped while it was made. -/
inductive Started : Generation D T → Prop
  | created {ids : ℕ × ℕ} {log : TransactionLog} {disk : LogDisk D T}
      (h : (create text header ids).run () ⟨∅, []⟩ = (.ok log, disk)) :
      Started ⟨disk.dir, some log, [], []⟩
  | stopped {ids : ℕ × ℕ} {dir : LogDirectory D T}
      (h : dir ∈ ((create text header ids).post () ⟨∅, []⟩).steps) : Started ⟨dir, none, [], []⟩

variable [DecidableEq D]

variable (text header) in
/-- What happens to a generation.  An `append` or a `fail` that does not end well stops at any of
its steps, and the log has failed: a runner calls `fail` on every error of `append`. -/
inductive Step : Generation D T → Generation D T → Prop
  | append {g : Generation D T} {log log' : TransactionLog} {tx : T} {ids : ℕ × ℕ}
      {disk : LogDisk D T} (hopen : g.log = some log)
      (h : (log.append text tx ids).run () ⟨g.dir, []⟩ = (.ok log', disk)) :
      Step g ⟨disk.dir, some log', g.handed ++ [tx], g.released ++ [tx]⟩
  | stopped {g : Generation D T} {log : TransactionLog} {tx : T} {ids : ℕ × ℕ}
      {dir : LogDirectory D T} (hopen : g.log = some log)
      (h : dir ∈ g.dir :: ((log.append text tx ids).post () ⟨g.dir, []⟩).steps) :
      Step g ⟨dir, some { log with failed := true }, g.handed ++ [tx], g.released⟩
  | fail {g : Generation D T} {log : TransactionLog} {error : String} {id : ℕ}
      {dir : LogDirectory D T} (hopen : g.log = some log)
      (h : dir ∈ g.dir :: ((log.fail text error id).post () ⟨g.dir, []⟩).steps) :
      Step g ⟨dir, some { log with failed := true }, g.handed, g.released⟩
  | close {g : Generation D T} : Step g { g with log := none }
  | reopen {g : Generation D T} {log : TransactionLog} {transactions : List T}
      (hclosed : g.log = none) (h : openLog text g.dir header = .ok (log, transactions)) :
      Step g { g with log := some log }

/-- The transactions that a generation holds. -/
structure Holds (text : LogText D T) (header : D) (g : Generation D T) (transactions : List T) :
    Prop where
  atHead : AtHead text header transactions g.dir
  clean : ∀ log, g.log = some log → log.failed = false → Clean text header transactions g.dir log
  released : g.released.Sublist transactions
  handed : transactions.Sublist g.handed

section Runs

variable {g₀ g g' : Generation D T} {transactions' opened opened' : List T} {expected : D}
  {name : LogName}

/-- Every step leaves the transactions before it, and at most adds one. -/
theorem Holds.step (h : Holds text header g transactions) (hstep : Step text header g g') :
    ∃ transactions', transactions <+: transactions' ∧ Holds text header g' transactions' := by
  cases hstep with
  | @append log log' tx ids disk hopen hrun =>
    have hwp : wp (log.append text tx ids) () ⟨g.dir, []⟩ _ _ :=
      TransactionLog.wp_append h.atHead (h.clean log hopen)
    obtain ⟨hat, hclean, -⟩ := wp_ok hwp hrun
    exact ⟨_, List.prefix_append _ _, hat, fun _ hlog _ => Option.some.inj hlog ▸ hclean,
      h.released.append (.refl _), h.handed.append (.refl _)⟩
  | stopped hopen hdir =>
    rcases stopped_append h.atHead (h.clean _ hopen) hdir with hbefore | hafter
    · exact ⟨_, List.prefix_rfl, hbefore, fun _ => clean_of_failed, h.released,
        h.handed.trans (List.sublist_append_left _ _)⟩
    · exact ⟨_, List.prefix_append _ _, hafter, fun _ => clean_of_failed,
        h.released.trans (List.sublist_append_left _ _), h.handed.append (.refl _)⟩
  | fail hopen hdir =>
    have hkeeps := stopped_fail hdir
    exact ⟨_, List.prefix_rfl, h.atHead.keeps fun name content _ => hkeeps name content trivial,
      fun _ => clean_of_failed, h.released, h.handed⟩
  | close =>
    exact ⟨_, List.prefix_rfl, h.atHead, fun _ hlog => (nomatch hlog), h.released, h.handed⟩
  | reopen _ hopen =>
    obtain ⟨-, -, hclean⟩ := h.atHead.openLog_eq hopen
    exact ⟨_, List.prefix_rfl, h.atHead, fun _ hlog _ => Option.some.inj hlog ▸ hclean, h.released,
      h.handed⟩

/-- A run only adds transactions. -/
theorem Holds.run (h : Holds text header g transactions)
    (hrun : Relation.ReflTransGen (Step text header) g g') :
    ∃ transactions', transactions <+: transactions' ∧ Holds text header g' transactions' := by
  induction hrun with
  | refl => exact ⟨_, List.prefix_rfl, h⟩
  | tail _ hstep ih =>
    obtain ⟨between, hprefix, hbetween⟩ := ih
    obtain ⟨after, hprefix', hafter⟩ := hbetween.step hstep
    exact ⟨after, hprefix.trans hprefix', hafter⟩

/-- A directory without a head is not opened. -/
theorem openLog_of_notMem (h : .head ∉ dir) : openLog text dir expected ≠ .ok (log, opened) := by
  intro hopen
  unfold openLog checkFiles at hopen
  obtain ⟨_, hfiles, -⟩ := bind_eq_ok.mp hopen
  obtain ⟨-, hfiles⟩ := ensure_bind_eq_ok.mp hfiles
  obtain ⟨-, hfiles⟩ := ensure_bind_eq_ok.mp hfiles
  obtain ⟨-, hfiles⟩ := ensure_bind_eq_ok.mp hfiles
  have hmem := ensure_eq_ok.mp hfiles
  simp only [Bool.and_eq_true, decide_eq_true_eq] at hmem
  exact h (AList.mem_keys.mpr hmem.2)

/-- Transactions with nothing in them but their index, which is one. -/
instance unitRecord : LogRecord Unit where
  index _ := 1
  previousSha256 _ := ""

def unitText : LogText Unit Unit :=
  ⟨fun _ => "", fun _ => "", fun _ => "", fun _ => "", fun _ => "", fun _ => 1⟩

/-- A generation with its first transaction. -/
def unitGeneration : Generation Unit Unit :=
  let created := (create unitText () (0, 1)).run () ⟨∅, []⟩
  let log := created.1.toOption.getD ⟨"", [], 0, true⟩
  let appended := (log.append unitText () (2, 3)).run () ⟨created.2.dir, []⟩
  ⟨appended.2.dir, appended.1.toOption, [()], [()]⟩

/-- The directory after it has failed. -/
def unitFailed : Generation Unit Unit :=
  let log := unitGeneration.log.getD ⟨"", [], 0, true⟩
  let failed := (log.fail unitText "" 4).run () ⟨unitGeneration.dir, []⟩
  ⟨failed.2.dir, some { log with failed := true }, [()], [()]⟩

theorem unit_started : ∃ log dir, Started unitText () ⟨dir, some log, [], []⟩ ∧
    openLog unitText dir () = .ok (log, []) ∧
      Step unitText () ⟨dir, some log, [], []⟩ unitGeneration :=
  ⟨_, _, .created (rfl : (create unitText () (0, 1)).run () ⟨∅, []⟩ = _), rfl,
    .append rfl (rfl : TransactionLog.append unitText _ () (2, 3) () _ = _)⟩

theorem unit_failed : Step unitText () unitGeneration unitFailed :=
  .fail rfl (List.mem_of_getElem? (rfl : (_ :: (post (TransactionLog.fail unitText _ "" 4) ()
    ⟨unitGeneration.dir, []⟩).steps)[3]? = some unitFailed.dir))

/-- A generation whose process stopped before its head was there. -/
def Torn (g : Generation D T) : Prop := .head ∉ g.dir ∧ g.log = none

theorem Torn.run (h : Torn g) (hrun : Relation.ReflTransGen (Step text header) g g') : Torn g' := by
  induction hrun with
  | refl => exact h
  | tail _ hstep ih =>
    cases hstep with
    | append hopen | stopped hopen | fail hopen => exact (nomatch ih.2.symm.trans hopen)
    | close => exact ⟨ih.1, rfl⟩
    | reopen _ hopen => exact absurd hopen (openLog_of_notMem ih.1)

/-- Every generation that was ever started is torn or holds its transactions. -/
theorem Started.run (hstart : Started text header g₀)
    (hrun : Relation.ReflTransGen (Step text header) g₀ g) :
    Torn g ∨ ∃ transactions, Holds text header g transactions := by
  have hcases : Torn g₀ ∨ Holds text header g₀ [] := by
    cases hstart with
    | created hcreate =>
      obtain ⟨⟨hat, hclean⟩, -⟩ := wp_ok TransactionLog.wp_create hcreate
      exact .inr ⟨hat, fun _ hlog _ => Option.some.inj hlog ▸ hclean, .refl _, .refl _⟩
    | @stopped ids dir hdir =>
      have hsteps : Disk.Steps (Starting text header) ⟨∅, []⟩
          ((create text header ids).post () ⟨∅, []⟩) :=
        wp_post (wp_mono TransactionLog.wp_create (fun _ _ h => h.2) fun _ _ h => h)
      obtain ⟨new, hnew, hall⟩ := hsteps
      rw [hnew] at hdir
      exact (hall _ hdir).imp (fun hhead => ⟨hhead, rfl⟩)
        fun hat => ⟨hat, fun _ hlog => (nomatch hlog), .refl _, .refl _⟩
  rcases hcases with htorn | hholds
  · exact .inl (htorn.run hrun)
  · obtain ⟨_, -, h⟩ := hholds.run hrun
    exact .inr ⟨_, h⟩

/-- Whenever a generation is opened, at whatever step its last process stopped, it opens to what
`append` released, with nothing that was not handed to it, each transaction chained to the one
before it and readable under its own index. -/
theorem opened_released (hstart : Started text header g₀)
    (hrun : Relation.ReflTransGen (Step text header) g₀ g)
    (hopen : openLog text g.dir expected = .ok (log, opened)) :
    expected = header ∧ g.released.Sublist opened ∧ opened.Sublist g.handed ∧
      ∀ i tx, opened[i]? = some tx → LogRecord.index tx = i + 1 ∧
        LogRecord.previousSha256 tx = previousOf text (text.header header) (opened.take i) ∧
          log.read text g.dir (i + 1) = .ok tx := by
  rcases hstart.run hrun with htorn | ⟨transactions, h⟩
  · exact absurd hopen (openLog_of_notMem htorn.1)
  · obtain ⟨rfl, rfl, hclean⟩ := h.atHead.openLog_eq hopen
    refine ⟨rfl, h.released, h.handed, ?_⟩
    intro i tx htx
    obtain ⟨hindex, hprevious⟩ := h.atHead.chain i tx htx
    exact ⟨hindex, hprevious, h.atHead.read_eq hclean htx⟩

theorem opened_released_unit : ∃ log, openLog unitText unitGeneration.dir () = .ok (log, [()]) ∧
    unitGeneration.released.Sublist [()] := by
  obtain ⟨_, _, hstart, _, hstep⟩ := unit_started
  have hopen : openLog unitText unitGeneration.dir () = .ok (_, [()]) := rfl
  exact ⟨_, hopen, (opened_released hstart (.single hstep) hopen).2.1⟩

/-- What one process opened stays the beginning of what every later one opens. -/
theorem opened_prefix (hstart : Started text header g₀)
    (hrun : Relation.ReflTransGen (Step text header) g₀ g)
    (hopen : openLog text g.dir expected = .ok (log, opened))
    (hrun' : Relation.ReflTransGen (Step text header) g g') {log' : TransactionLog}
    (hopen' : openLog text g'.dir expected = .ok (log', opened')) : opened <+: opened' := by
  rcases hstart.run hrun with htorn | ⟨transactions, h⟩
  · exact absurd hopen (openLog_of_notMem htorn.1)
  · obtain ⟨_, hprefix, h'⟩ := h.run hrun'
    obtain ⟨-, rfl, -⟩ := h.atHead.openLog_eq hopen
    obtain ⟨-, rfl, -⟩ := h'.atHead.openLog_eq hopen'
    exact hprefix

theorem opened_prefix_unit : ([] : List Unit) <+: [()] :=
  let ⟨_, _, hstart, hopen, hstep⟩ := unit_started
  opened_prefix hstart .refl hopen (.single hstep) (rfl : openLog _ unitGeneration.dir _ = _)

/-- A log that is open and has not failed can be closed at any time: the directory opens to the very
same log, so `append` never accepts what opening refuses. -/
theorem openLog_again (hstart : Started text header g₀)
    (hrun : Relation.ReflTransGen (Step text header) g₀ g) (hlog : g.log = some log)
    (hhealthy : log.failed = false) :
    ∃ opened, openLog text g.dir header = .ok (log, opened) ∧ g.released.Sublist opened := by
  rcases hstart.run hrun with htorn | ⟨transactions, h⟩
  · exact (nomatch htorn.2.symm.trans hlog)
  · exact ⟨transactions, (h.clean log hlog hhealthy).openLog_eq h.atHead, h.released⟩

theorem openLog_again_unit : ∃ log opened, unitGeneration.log = some log ∧
    openLog unitText unitGeneration.dir () = .ok (log, opened) :=
  let ⟨_, _, hstart, _, hstep⟩ := unit_started
  let ⟨opened, hopen, _⟩ := openLog_again hstart (.single hstep) (rfl : unitGeneration.log = _) rfl
  ⟨_, opened, rfl, hopen⟩

/-- A generation with a file that was not released is never opened again. -/
theorem stray_refused (hstart : Started text header g₀)
    (hrun : Relation.ReflTransGen (Step text header) g₀ g) (hstray : IsStray g.dir name)
    (hrun' : Relation.ReflTransGen (Step text header) g g') :
    openLog text g'.dir expected ≠ .ok (log, opened) := by
  intro hopen
  rcases hstart.run hrun with htorn | ⟨transactions, h⟩
  · exact openLog_of_notMem (htorn.run hrun').1 hopen
  -- no process can use the log, so all that can change is that there are more files
  have hinv : Holds text header g' transactions ∧ IsStray g'.dir name := by
    clear hopen
    induction hrun' with
    | refl => exact ⟨h, hstray⟩
    | @tail mid _ _ hstep ih =>
      obtain ⟨hmid, hstray⟩ := ih
      have hfailed : ∀ log, mid.log = some log → log.failed = true := by
        intro log hlog
        by_contra hhealthy
        exact (hmid.clean log hlog (Bool.eq_false_iff.mpr hhealthy)).not_isStray hmid.atHead hstray
      cases hstep with
      | append hlog hrun =>
        exact (nomatch (append_failed (hfailed _ hlog)).symm.trans hrun)
      | stopped hlog hdir =>
        unfold post at hdir
        rw [append_failed (hfailed _ hlog)] at hdir
        obtain rfl := List.mem_singleton.mp hdir
        exact ⟨⟨hmid.atHead, fun _ => clean_of_failed, hmid.released,
          hmid.handed.trans (List.sublist_append_left _ _)⟩, hstray⟩
      | fail hlog hdir =>
        have hkeeps := stopped_fail hdir
        have hat := hmid.atHead.keeps fun name content _ => hkeeps name content trivial
        refine ⟨⟨hat, fun _ => clean_of_failed, hmid.released, hmid.handed⟩, ?_, hstray.2.1, ?_⟩
        · obtain ⟨content, hcontent⟩ :=
            Option.isSome_iff_exists.mp (AList.lookup_isSome.mpr hstray.1)
          exact AList.lookup_isSome.mp (by rw [hkeeps name content trivial hcontent]; rfl)
        · intro saved hsaved
          exact hstray.2.2 saved (by rw [← hsaved, hmid.atHead.head, hat.head])
      | close =>
        exact ⟨⟨hmid.atHead, fun _ hlog => (nomatch hlog), hmid.released, hmid.handed⟩, hstray⟩
      | reopen _ hreopen =>
        obtain ⟨-, rfl, hclean⟩ := hmid.atHead.openLog_eq hreopen
        exact absurd hstray (hclean.not_isStray hmid.atHead)
  obtain ⟨-, rfl, hclean⟩ := hinv.1.atHead.openLog_eq hopen
  exact hclean.not_isStray hinv.1.atHead hinv.2

theorem stray_refused_unit : (openLog unitText unitFailed.dir ()).isOk = false := by
  obtain ⟨_, _, hstart, _, hstep⟩ := unit_started
  have hstray : IsStray unitFailed.dir .failed :=
    ⟨AList.lookup_isSome.mp rfl, by decide, fun _ _ hmem => by simp [entryNames] at hmem⟩
  cases hopen : openLog unitText unitFailed.dir () with
  | error => rfl
  | ok opened =>
    exact absurd hopen (stray_refused hstart (.tail (.single hstep) unit_failed) hstray .refl)

end Runs

end Generation

end AlorRs.RiContext
