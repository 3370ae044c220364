/-
What reading a snapshot says of its files.

A snapshot that is read broke no rule on the way, so every loop of the reader went through every
file it looked at.  The page size and the cache line come from their files as numbers, which may
be zero.
-/
import CpuPrefetch.Platform.LinuxInventory
import CpuPrefetch.Proofs.Protocol.Binary64

namespace CpuPrefetch.Platform

open List
open Protocol (Text ascii decimal)
open Protocol.Json (digitsValue isDigit)

variable {build : BuildIdentity} {snapshot : LinuxSnapshot} {inventory : PlatformInventory}

/-! ### Numbers -/

/-- The text has a digit other than zero. -/
def NonzeroDigit (text : Text) : Prop := ∃ byte ∈ text, 49 ≤ byte ∧ byte ≤ 57

instance (text : Text) : Decidable (NonzeroDigit text) := by
  unfold NonzeroDigit
  infer_instance

variable {text : Text}

theorem mem_dropWhile {byte : UInt8} (hspace : isSpace byte = false) :
    byte ∈ text.dropWhile isSpace ↔ byte ∈ text := by
  constructor
  · exact fun h => (dropWhile_sublist isSpace).subset h
  · intro h
    rw [← takeWhile_append_dropWhile (p := isSpace) (l := text), mem_append] at h
    rcases h with h | h
    · rw [mem_takeWhile_imp h] at hspace
      cases hspace
    · exact h

theorem mem_trim {byte : UInt8} (hspace : isSpace byte = false) :
    byte ∈ trim text ↔ byte ∈ text := by
  rw [trim, List.rdropWhile, mem_reverse, mem_dropWhile hspace, mem_reverse,
    mem_dropWhile hspace]

theorem nonzeroDigit_trim (text : Text) : NonzeroDigit (trim text) ↔ NonzeroDigit text := by
  have hspace : ∀ {byte : UInt8}, 49 ≤ byte ∧ byte ≤ 57 → isSpace byte = false := by
    rintro byte ⟨hlow, -⟩
    rw [isSpace, Bool.or_eq_false_iff, Bool.and_eq_false_iff, decide_eq_false_iff_not,
      decide_eq_false_iff_not, decide_eq_false_iff_not]
    simp only [UInt8.le_iff_toNat_le, ← UInt8.toNat_inj, UInt8.reduceToNat] at hlow ⊢
    omega
  refine exists_congr fun byte => and_congr_left fun hdigit => ?_
  exact mem_trim (hspace hdigit)

/-- A string of digits is a number other than zero exactly when one of them is. -/
theorem digitsValue_ne_zero (h : ∀ byte ∈ text, isDigit byte = true) :
    digitsValue text ≠ 0 ↔ NonzeroDigit text := by
  induction text using List.reverseRecOn with
  | nil => simp [digitsValue, NonzeroDigit]
  | append_singleton front last ih =>
      simp only [forall_mem_append, forall_mem_singleton] at h
      have hlast : last.toNat - 48 ≠ 0 ↔ 49 ≤ last ∧ last ≤ 57 := by
        have hdigit := h.2
        simp only [isDigit, Bool.and_eq_true, decide_eq_true_eq] at hdigit
        simp only [UInt8.le_iff_toNat_le, UInt8.reduceToNat] at hdigit ⊢
        omega
      have hsplit : NonzeroDigit (front ++ [last]) ↔
          NonzeroDigit front ∨ 49 ≤ last ∧ last ≤ 57 := by
        simp only [NonzeroDigit, mem_append, mem_singleton, or_and_right, exists_or,
          exists_eq_left]
      rw [Protocol.Json.digitsValue_append, hsplit, ← ih h.1, ← hlast]
      omega

theorem fromChars_eq_some {bits n : Nat} (h : fromChars bits text = some n) :
    (∀ byte ∈ text, isDigit byte = true) ∧ n = digitsValue text ∧ n < 2 ^ bits := by
  unfold fromChars at h
  split at h
  · cases h
  · rename_i hdigits
    split at h
    · rename_i hbound
      obtain rfl := Option.some.inj h
      simp only [Bool.or_eq_true, Bool.not_eq_true', not_or, Bool.not_eq_false,
        all_eq_true] at hdigits
      exact ⟨hdigits.2, rfl, hbound⟩
    · cases h

variable {path : Text}

/-- What is read as a 64-bit number is not zero exactly when the text has a digit that is not. -/
theorem parseUint64_ne_zero {ruleId : String} {value : UInt64}
    (h : parseUint64 text path ruleId = .ok value) : value ≠ 0 ↔ NonzeroDigit text := by
  unfold parseUint64 parseInteger at h
  split at h
  · rename_i read hread
    obtain rfl := Except.ok.inj h
    obtain ⟨n, hn, rfl⟩ := Option.map_eq_some_iff.mp hread
    obtain ⟨hdigits, rfl, hbound⟩ := fromChars_eq_some hn
    rw [← nonzeroDigit_trim, ← digitsValue_ne_zero hdigits, ne_eq, ← UInt64.toNat_inj,
      UInt64.toNat_ofNat_of_lt' hbound]
    rfl
  · cases h

/-! ### Lists of processors -/

variable {inserted values : List UInt32}

theorem mem_insertCpu {value : UInt32} (h : insertCpu value values = some inserted) (cpu : UInt32) :
    cpu ∈ inserted ↔ cpu = value ∨ cpu ∈ values := by
  induction values generalizing inserted with
  | nil =>
      obtain rfl := Option.some.inj h
      simp
  | cons first rest ih =>
      rw [insertCpu] at h
      split at h
      · obtain rfl := Option.some.inj h
        exact mem_cons
      · split at h
        · cases h
        · obtain ⟨others, hothers, rfl⟩ := Option.map_eq_some_iff.mp h
          rw [mem_cons, ih hothers, mem_cons]
          tauto

theorem insertCpu_sorted {value : UInt32} (hsorted : values.Pairwise (· < ·))
    (h : insertCpu value values = some inserted) : inserted.Pairwise (· < ·) := by
  induction values generalizing inserted with
  | nil =>
      obtain rfl := Option.some.inj h
      exact pairwise_singleton _ _
  | cons first rest ih =>
      obtain ⟨hfirst, hrest⟩ := List.pairwise_cons.mp hsorted
      rw [insertCpu] at h
      split at h
      · rename_i hbefore
        obtain rfl := Option.some.inj h
        refine List.pairwise_cons.mpr ⟨?_, hsorted⟩
        rw [forall_mem_cons]
        exact ⟨hbefore, fun cpu hcpu => UInt32.lt_trans hbefore (hfirst cpu hcpu)⟩
      · rename_i hafter
        split at h
        · cases h
        · rename_i hne
          obtain ⟨others, hothers, rfl⟩ := Option.map_eq_some_iff.mp h
          refine List.pairwise_cons.mpr ⟨fun cpu hcpu => ?_, ih hrest hothers⟩
          rcases (mem_insertCpu hothers cpu).mp hcpu with rfl | hcpu
          · exact UInt32.lt_of_le_of_ne (UInt32.not_lt.mp hafter) (Ne.symm hne)
          · exact hfirst cpu hcpu

theorem insertRange_sorted {count value : Nat} (hsorted : values.Pairwise (· < ·))
    (h : insertRange count value values = some inserted) : inserted.Pairwise (· < ·) := by
  induction count generalizing value values with
  | zero =>
      obtain rfl := Option.some.inj h
      exact hsorted
  | succ count ih =>
      obtain ⟨next, hnext, hrest⟩ := Option.bind_eq_some_iff.mp h
      exact ih (insertCpu_sorted hsorted hnext) hrest

theorem addRange_sorted {read : List UInt32} {first last : UInt32}
    (hsorted : values.Pairwise (· < ·)) (h : addRange path values first last = .ok read) :
    read.Pairwise (· < ·) := by
  unfold addRange at h
  split at h
  · cases h
  · split at h
    · rename_i hinserted
      obtain rfl := Except.ok.inj h
      exact insertRange_sorted hsorted hinserted
    · cases h

theorem parseCpuToken_sorted {token : Text} {read : List UInt32}
    (hsorted : values.Pairwise (· < ·)) (h : parseCpuToken path values token = .ok read) :
    read.Pairwise (· < ·) := by
  simp only [parseCpuToken, bind, Except.bind] at h
  repeat' split at h
  all_goals first | exact addRange_sorted hsorted h | cases h

/-- The processors of a list come out in order, each once. -/
theorem parseCpuList_sorted {cpus : List UInt32} (h : parseCpuList text path = .ok cpus) :
    cpus.Pairwise (· < ·) := by
  have htokens : ∀ (tokens : List Text) (values : List UInt32), values.Pairwise (· < ·) →
      tokens.foldlM (parseCpuToken path) values = .ok cpus → cpus.Pairwise (· < ·) := by
    intro tokens
    induction tokens with
    | nil =>
        intro values hsorted hread
        obtain rfl := Except.ok.inj hread
        exact hsorted
    | cons token rest ih =>
        intro values hsorted hread
        rw [foldlM_cons] at hread
        simp only [bind, Except.bind] at hread
        split at hread
        · cases hread
        · rename_i next hnext
          exact ih next (parseCpuToken_sorted hsorted hnext) hread
  exact htokens _ [] List.Pairwise.nil h

theorem cpus_bounded {cpus : List UInt32} (h : cpus.Pairwise (· < ·)) : cpus.length ≤ 2 ^ 32 := by
  have hnodup : cpus.Nodup := h.imp fun hlt => UInt32.ne_of_lt hlt
  have hnats : (cpus.map UInt32.toNat).Nodup := hnodup.map fun _ _ => UInt32.toNat.inj
  have hbound : cpus.map UInt32.toNat ⊆ List.range (2 ^ 32) := by
    intro n hn
    obtain ⟨cpu, -, rfl⟩ := List.mem_map.mp hn
    exact List.mem_range.mpr cpu.toNat_lt
  simpa using (hnats.subperm hbound).length_le

/-! ### Errors -/

/-- A result that is not a value says why. -/
def Explained {T : Type} (result : Result T) : Prop := result ≠ .error []

variable {T : Type}

theorem Explained.value {result : Result T} (h : Explained result)
    (herrors : errorsOf result = []) : ∃ value, result = .ok value := by
  cases result with
  | ok value => exact ⟨value, rfl⟩
  | error errors => exact absurd (congrArg Except.error herrors) h

theorem explained_ok (value : T) : Explained (.ok value) := by simp [Explained]

theorem explained_error {error : Error} {errors : List Error} :
    Explained (.error (error :: errors) : Result T) := by
  simp [Explained]

theorem explained_bind {S : Type} {first : Result S} {rest : S → Result T}
    (hfirst : Explained first) (hrest : ∀ value, Explained (rest value)) :
    Explained (first >>= rest) := by
  cases first with
  | ok value => exact hrest value
  | error errors => exact fun h => hfirst (congrArg Except.error (Except.error.inj h))

theorem explained_parseInteger (read : Text → Option T) (text path : Text) (ruleId : String) :
    Explained (parseInteger read text path ruleId) := by
  rw [parseInteger]
  split
  · exact explained_ok _
  · exact explained_error

theorem explained_requiredFile (snapshot : LinuxSnapshot) (path : Text) :
    Explained (requiredFile snapshot path) := by
  rw [requiredFile]
  split
  · exact explained_ok _
  · exact explained_error

theorem explained_addRange (path : Text) (values : List UInt32) (first last : UInt32) :
    Explained (addRange path values first last) := by
  rw [addRange]
  split
  · exact explained_error
  · split
    · exact explained_ok _
    · exact explained_error

theorem explained_parseCpuToken (path : Text) (values : List UInt32) (token : Text) :
    Explained (parseCpuToken path values token) := by
  refine explained_bind (explained_parseInteger _ _ _ _) fun first => ?_
  dsimp only
  split
  · exact explained_bind (explained_parseInteger _ _ _ _) (explained_addRange path values first)
  · exact explained_addRange path values first first

theorem explained_parseCpuList (text path : Text) : Explained (parseCpuList text path) := by
  have htokens : ∀ (tokens : List Text) (values : List UInt32),
      Explained (tokens.foldlM (parseCpuToken path) values) := by
    intro tokens
    induction tokens with
    | nil => exact fun values => explained_ok values
    | cons token rest ih =>
        intro values
        rw [foldlM_cons]
        exact explained_bind (explained_parseCpuToken path values token) ih
  exact htokens _ _

theorem explained_cacheSizeBytes (text path : Text) : Explained (cacheSizeBytes text path) := by
  rw [cacheSizeBytes]
  split
  · exact explained_error
  · refine explained_bind (explained_parseInteger _ _ _ _) fun value => ?_
    split
    · exact explained_error
    · exact explained_ok _

/-- A cache that is not read says which of its files is at fault. -/
theorem explained_readCacheIndex (snapshot : LinuxSnapshot) (indexRoot : Text) :
    Explained (readCacheIndex snapshot indexRoot) := by
  intro h
  unfold readCacheIndex at h
  split at h
  · split at h
    · cases h
    · rename_i level shared size line hread
      simp only [Except.error.injEq, append_eq_nil_iff] at h
      obtain ⟨⟨⟨hlevel, hshared⟩, hsize⟩, hline⟩ := h
      obtain ⟨_, hlevel⟩ := (explained_parseInteger _ _ _ _).value hlevel
      obtain ⟨_, hshared⟩ := (explained_parseCpuList _ _).value hshared
      obtain ⟨_, hsize⟩ := (explained_cacheSizeBytes _ _).value hsize
      obtain ⟨_, hline⟩ := (explained_parseInteger _ _ _ _).value hline
      exact hread _ _ _ _ hlevel hshared hsize hline
  · rename_i hread
    simp only [Except.error.injEq, append_eq_nil_iff] at h
    obtain ⟨⟨⟨⟨hlevel, hkind⟩, hshared⟩, hsize⟩, hline⟩ := h
    obtain ⟨_, hlevel⟩ := (explained_requiredFile _ _).value hlevel
    obtain ⟨_, hkind⟩ := (explained_requiredFile _ _).value hkind
    obtain ⟨_, hshared⟩ := (explained_requiredFile _ _).value hshared
    obtain ⟨_, hsize⟩ := (explained_requiredFile _ _).value hsize
    obtain ⟨_, hline⟩ := (explained_requiredFile _ _).value hline
    exact hread _ _ _ _ _ hlevel hkind hshared hsize hline

/-! ### Caches -/

/-- A file of the snapshot whose text has a digit other than zero. -/
def NonzeroAt (snapshot : LinuxSnapshot) (path : Text) : Prop :=
  ∃ text, snapshot.files.find path = some text ∧ NonzeroDigit text

theorem nonzeroAt_of (h : requiredFile snapshot path = .ok text) :
    NonzeroAt snapshot path ↔ NonzeroDigit text := by
  rw [requiredFile] at h
  split at h
  · rename_i file hfile
    obtain rfl := Except.ok.inj h
    rw [nonzeroDigit_trim]
    simp [NonzeroAt, hfile]
  · cases h

def lineFile (indexRoot : Text) : Text := indexRoot ++ ascii "/coherency_line_size"

/-- The line size of a cache is not zero exactly when its file has a digit that is not. -/
theorem line_ne_zero {indexRoot : Text} {index : CacheIndex}
    (h : readCacheIndex snapshot indexRoot = .ok index) :
    index.line ≠ 0 ↔ NonzeroAt snapshot (lineFile indexRoot) := by
  unfold readCacheIndex at h
  split at h
  · rename_i hline
    split at h
    · rename_i hvalue
      obtain rfl := Except.ok.inj h
      exact (parseUint64_ne_zero hvalue).trans (nonzeroAt_of hline).symm
    · cases h
  · cases h

/-- One turn that breaks no rule: the cache was read, and its line is the one seen before. -/
theorem scanCache_settled {scan : CacheScan} {indexRoot : Text}
    (h : (scanCache snapshot scan indexRoot).errors = []) :
    scan.errors = [] ∧ ∃ index, readCacheIndex snapshot indexRoot = .ok index ∧
      (scanCache snapshot scan indexRoot).cacheLineBytes = some index.line ∧
      ∀ line, scan.cacheLineBytes = some line → line = index.line := by
  unfold scanCache at h ⊢
  split at h
  · rename_i index hindex
    simp only [CacheScan.add, append_eq_nil_iff] at h
    refine ⟨h.1.1, index, hindex, rfl, fun line hline => ?_⟩
    have hall := h.2
    rw [require, hline, Option.all_some] at hall
    by_contra hne
    simp [hne] at hall
  · rename_i errors herrors
    rw [append_eq_nil_iff] at h
    exact absurd (h.2 ▸ herrors) (explained_readCacheIndex snapshot indexRoot)

/-- A scan that breaks no rule read every cache, and they all have the one line. -/
theorem scan_settled {scan : CacheScan} {indexRoots : List Text}
    (h : (indexRoots.foldl (scanCache snapshot) scan).errors = []) :
    scan.errors = [] ∧
      (∀ line, scan.cacheLineBytes = some line →
        (indexRoots.foldl (scanCache snapshot) scan).cacheLineBytes = some line) ∧
      ∀ indexRoot ∈ indexRoots, ∃ index, readCacheIndex snapshot indexRoot = .ok index ∧
        (indexRoots.foldl (scanCache snapshot) scan).cacheLineBytes = some index.line := by
  induction indexRoots generalizing scan with
  | nil => exact ⟨h, fun _ hline => hline, by simp⟩
  | cons indexRoot rest ih =>
      rw [foldl_cons] at h ⊢
      obtain ⟨herrors, hkept, hrest⟩ := ih h
      obtain ⟨herrors, index, hindex, hline, hsame⟩ := scanCache_settled herrors
      refine ⟨herrors, fun line hbefore => ?_, List.forall_mem_cons.mpr ⟨?_, hrest⟩⟩
      · rw [hsame line hbefore]
        exact hkept _ hline
      · exact ⟨index, hindex, hkept _ hline⟩

theorem cacheId_ne_nil (key : CacheKey) : cacheId key ≠ [] := by
  have hlevel : ascii "L" ≠ [] := by decide
  simp [cacheId, hlevel]

/-! ### Memory nodes -/

theorem place_nodes (path : Text) (node : UInt32) (cpus : List UInt32) (scan : NodeScan) :
    (cpus.foldl (NodeScan.place path node) scan).nodes = scan.nodes := by
  induction cpus generalizing scan with
  | nil => rfl
  | cons cpu rest ih =>
      rw [foldl_cons, ih, NodeScan.place]
      split <;> rfl

theorem scanNode_length (scan : NodeScan) (file : Text × Text) :
    (scanNode scan file).nodes.length ≤ scan.nodes.length + 1 := by
  unfold scanNode
  split
  · omega
  · split
    · dsimp only
      rw [place_nodes, length_append, length_singleton]
    · exact Nat.le_succ _

/-- There are no more memory nodes than files. -/
theorem scanNodes_length (snapshot : LinuxSnapshot) :
    (scanNodes snapshot).nodes.length ≤ snapshot.files.entries.length := by
  have hscan : ∀ (files : List (Text × Text)) (scan : NodeScan),
      (files.foldl scanNode scan).nodes.length ≤ scan.nodes.length + files.length := by
    intro files
    induction files with
    | nil => exact fun scan => le_rfl
    | cons file rest ih =>
        intro scan
        have hturn := scanNode_length scan file
        have hrest := ih (scanNode scan file)
        rw [foldl_cons, length_cons]
        omega
  refine (hscan snapshot.files.entries ⟨[], [], []⟩).trans ?_
  rw [length_nil, Nat.zero_add]

/-! ### The inventory -/

/-- The online processors that a snapshot names. -/
def onlineCpus (snapshot : LinuxSnapshot) : List UInt32 :=
  match requiredFile snapshot onlinePath with
  | .ok text => ((parseCpuList text (ascii "$snapshot/cpu/online")).toOption).getD []
  | .error _ => []

/-- The directories of the caches of the online processors. -/
def onlineCaches (snapshot : LinuxSnapshot) : List Text :=
  (onlineCpus snapshot).flatMap (cacheIndexRoots snapshot)

/-- The names of the software that a record takes over from its inventory. -/
structure NamedSoftware (software : SoftwareIdentity) : Prop where
  operatingSystem : software.operatingSystem ≠ []
  kernel : software.kernel ≠ []
  compiler : software.compiler ≠ []
  standardLibrary : software.standardLibrary ≠ []
  languageStandard : software.languageStandard ≠ []

/-- What an inventory that was read has, whatever the snapshot. -/
structure Collected (inventory : PlatformInventory) : Prop where
  software : NamedSoftware inventory.software
  domains : ∀ domain ∈ inventory.cacheDomains, domain.domainId ≠ []
  width : inventory.cpu.atomicWidthBits ≠ 0
  alignment : inventory.cpu.atomicAlignmentBytes ≠ 0
  cpus : inventory.logicalCpus.length ≤ 2 ^ 32
  nodes : inventory.numaNodes.length < 2 ^ 64

/-- What is read before the loops. -/
theorem parsed (h : parseLinuxSnapshot build snapshot = .ok inventory) :
    snapshot.kernelRelease ≠ [] ∧ (onlineCpus snapshot).Pairwise (· < ·) ∧
      ∃ cpuinfo pageText page, requiredFile snapshot pagePath = .ok pageText ∧
        parseUint64 pageText (ascii "$snapshot/memory/base_page_bytes") "PLT-BASE-PAGE" = .ok page ∧
        readInventory build snapshot cpuinfo (onlineCpus snapshot) page = .ok inventory := by
  unfold parseLinuxSnapshot at h
  dsimp only at h
  split at h
  · rename_i onlineText cpuinfo pageText hnone honline hcpuinfo hpage
    split at h
    · rename_i online page hcpus hvalue
      split at h
      · cases h
      · have hread : onlineCpus snapshot = online := by
          simp [onlineCpus, honline, hcpus, Except.toOption]
        rw [← hread] at h
        simp only [append_eq_nil_iff, require] at hnone
        refine ⟨by simpa using hnone.2, ?_, cpuinfo, pageText, page, hpage, hvalue, h⟩
        rw [hread]
        exact parseCpuList_sorted hcpus
    · cases h
  · cases h

/-- What the loops leave behind, when none of them broke a rule. -/
theorem readInventory_ok {cpuinfo : Text} {online : List UInt32} {page : UInt64}
    (h : readInventory build snapshot cpuinfo online page = .ok inventory) :
    (scanCaches snapshot online).errors = [] ∧
      (scanCaches snapshot online).cacheLineBytes = some inventory.cpu.cacheLineBytes ∧
      inventory.cpu.atomicWidthBits = build.atomicWidthBits ∧
      inventory.cpu.atomicAlignmentBytes = build.atomicAlignmentBytes ∧
      inventory.software = ⟨ascii "Linux", snapshot.kernelRelease, build.compiler,
        build.standardLibrary, ascii "C++20"⟩ ∧
      inventory.basePageBytes = page ∧
      inventory.cacheDomains = cacheDomains (scanCaches snapshot online) ∧
      inventory.logicalCpus = readings (online.map
        (readCpu snapshot (scanNodes snapshot).cpuToNode (scanCaches snapshot online).caches)) ∧
      inventory.numaNodes.length = (scanNodes snapshot).nodes.length := by
  unfold readInventory at h
  dsimp only at h
  split at h
  · rename_i names line hnone hnames hline
    obtain rfl := Except.ok.inj h
    simp only [append_eq_nil_iff] at hnone
    exact ⟨hnone.1.1.1.1.2, hline, rfl, rfl, rfl, rfl, rfl, rfl, length_insertionSort _ _⟩
  · cases h

theorem parsed_collected (h : parseLinuxSnapshot build snapshot = .ok inventory) :
    Collected inventory := by
  obtain ⟨hkernel, hsorted, cpuinfo, pageText, page, -, -, hread⟩ := parsed h
  obtain ⟨-, -, hwidth, halignment, hsoftware, -, hdomains, hcpus, hnodes⟩ := readInventory_ok hread
  constructor
  · rw [hsoftware]
    have hsystem : ascii "Linux" ≠ [] := by decide
    have hlanguage : ascii "C++20" ≠ [] := by decide
    exact ⟨hsystem, hkernel, build.compiler_named, build.library_named, hlanguage⟩
  · rw [hdomains, cacheDomains, forall_mem_map]
    exact fun cache _ => cacheId_ne_nil cache.1
  · rw [hwidth]
    exact build.width_positive
  · rw [halignment]
    exact build.alignment_positive
  · rw [hcpus, readings]
    refine (length_filterMap_le _ _).trans ?_
    rw [length_map]
    exact cpus_bounded hsorted
  · rw [hnodes]
    exact (scanNodes_length snapshot).trans_lt snapshot.files.bounded

theorem page_ne_zero (h : parseLinuxSnapshot build snapshot = .ok inventory) :
    inventory.basePageBytes ≠ 0 ↔ NonzeroAt snapshot pagePath := by
  obtain ⟨-, -, cpuinfo, pageText, page, hpage, hvalue, hread⟩ := parsed h
  obtain ⟨-, -, -, -, -, rfl, -⟩ := readInventory_ok hread
  rw [nonzeroAt_of hpage]
  exact parseUint64_ne_zero hvalue

/-- The cache line has bytes exactly when the file of every cache says so. -/
theorem cacheLine_ne_zero (h : parseLinuxSnapshot build snapshot = .ok inventory) :
    inventory.cpu.cacheLineBytes ≠ 0 ↔
      ∀ indexRoot ∈ onlineCaches snapshot, NonzeroAt snapshot (lineFile indexRoot) := by
  obtain ⟨-, -, cpuinfo, pageText, page, -, -, hread⟩ := parsed h
  obtain ⟨herrors, hline, -⟩ := readInventory_ok hread
  obtain ⟨-, -, hcaches⟩ := scan_settled herrors
  have hnonzero : ∀ indexRoot ∈ onlineCaches snapshot,
      (inventory.cpu.cacheLineBytes ≠ 0 ↔ NonzeroAt snapshot (lineFile indexRoot)) := by
    intro indexRoot hroot
    obtain ⟨index, hindex, hsame⟩ := hcaches indexRoot hroot
    rw [← line_ne_zero hindex, Option.some.inj (hline.symm.trans hsame)]
  constructor
  · exact fun hpositive indexRoot hroot => (hnonzero indexRoot hroot).mp hpositive
  · intro hall
    -- a line was seen, so some cache was scanned
    rcases eq_nil_or_concat (onlineCaches snapshot) with hnone | ⟨front, indexRoot, hroots⟩
    · rw [scanCaches, show (onlineCpus snapshot).flatMap (cacheIndexRoots snapshot) = [] from hnone]
        at hline
      cases hline
    · have hroot : indexRoot ∈ onlineCaches snapshot := by simp [hroots]
      exact (hnonzero indexRoot hroot).mpr (hall indexRoot hroot)

end CpuPrefetch.Platform
