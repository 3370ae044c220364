/-
What an inventory that was read says of its processors, nodes and caches.

The loops go over the files more than once, and each keeps what it saw.  A processor is placed
the first time a node names it and a second time is an error, so the nodes have no processor in
common.  The caches are kept under ordered keys, and the identifier of a cache can be read back as
its key: its level ends at the first colon and its processors begin after the last one.
-/
import CpuPrefetch.Proofs.Platform.CpuLists
import CpuPrefetch.Proofs.Platform.EmittedRecords

namespace CpuPrefetch.Platform

open Protocol (Text ascii decimal)
open Protocol.Json (commaSeparated)

variable {build : BuildIdentity} {snapshot : LinuxSnapshot} {inventory : PlatformInventory}

/-! ### Keys of caches -/

theorem before_iff {left right : CacheKey} : left.before right = true ↔
    left.level < right.level ∨ left.level = right.level ∧
      (left.kind < right.kind ∨ left.kind = right.kind ∧ left.cpus < right.cpus) := by
  simp [CacheKey.before]

theorem before_irrefl (key : CacheKey) : ¬ key.before key = true := by
  rw [before_iff]
  rintro (h | ⟨-, h | ⟨-, h⟩⟩)
  · exact UInt32.lt_irrefl _ h
  · exact List.lt_irrefl _ h
  · exact List.lt_irrefl _ h

theorem before_trans {first second third : CacheKey} (h : first.before second = true)
    (h' : second.before third = true) : first.before third = true := by
  rw [before_iff] at h h' ⊢
  rcases h with h | ⟨hlevel, h⟩ <;> rcases h' with h' | ⟨hlevel', h'⟩
  · exact Or.inl (UInt32.lt_trans h h')
  · exact Or.inl (hlevel' ▸ h)
  · exact Or.inl (hlevel ▸ h')
  · refine Or.inr ⟨hlevel.trans hlevel', ?_⟩
    rcases h with h | ⟨hkind, h⟩ <;> rcases h' with h' | ⟨hkind', h'⟩
    · exact Or.inl (List.lt_trans h h')
    · exact Or.inl (hkind' ▸ h)
    · exact Or.inl (hkind ▸ h')
    · exact Or.inr ⟨hkind.trans hkind', List.lt_trans h h'⟩

variable {key : CacheKey}

/-- Of two keys that differ one is before the other. -/
theorem before_of_not {other : CacheKey} (h : ¬ key.before other = true) (hne : key ≠ other) :
    other.before key = true := by
  rw [before_iff] at h ⊢
  simp only [not_or, not_and] at h
  obtain ⟨hlevel, hrest⟩ := h
  rcases Std.le_iff_lt_or_eq.mp (UInt32.not_lt.mp hlevel) with hlevel | hlevel
  · exact Or.inl hlevel
  · obtain ⟨hkind, hrest⟩ := hrest hlevel.symm
    refine Or.inr ⟨hlevel, ?_⟩
    rcases Std.le_iff_lt_or_eq.mp (Std.not_lt.mp hkind) with hkind | hkind
    · exact Or.inl hkind
    · rcases Std.le_iff_lt_or_eq.mp (Std.not_lt.mp (hrest hkind.symm)) with hcpus | hcpus
      · exact Or.inr ⟨hkind, hcpus⟩
      · refine absurd ?_ hne
        cases key
        cases other
        simp_all

variable {caches : List (CacheKey × UInt64)}

theorem mem_emplaceCache {size : UInt64} (k : CacheKey) :
    k ∈ (emplaceCache key size caches).1.map Prod.fst ↔
      k = key ∨ k ∈ caches.map Prod.fst := by
  induction caches with
  | nil => simp [emplaceCache]
  | cons cache rest ih =>
      rw [emplaceCache]
      split
      · simp
      · split
        · rename_i heq
          simp [heq]
        · simp only [List.map_cons, List.mem_cons, ih]
          tauto

theorem emplaceCache_sorted {size : UInt64}
    (h : caches.Pairwise fun left right => left.1.before right.1 = true) :
    (emplaceCache key size caches).1.Pairwise fun left right => left.1.before right.1 = true := by
  induction caches with
  | nil => exact List.pairwise_singleton _ _
  | cons cache rest ih =>
      obtain ⟨hfirst, hrest⟩ := List.pairwise_cons.mp h
      rw [emplaceCache]
      split
      · rename_i hbefore
        refine List.pairwise_cons.mpr ⟨?_, h⟩
        rw [List.forall_mem_cons]
        exact ⟨hbefore, fun other hother => before_trans hbefore (hfirst other hother)⟩
      · rename_i hnot
        split
        · exact h
        · rename_i hne
          refine List.pairwise_cons.mpr ⟨fun other hother => ?_, ih hrest⟩
          rcases (mem_emplaceCache other.1).mp (List.mem_map_of_mem hother) with heq | hmem
          · rw [heq]
            exact before_of_not hnot hne
          · obtain ⟨cache', hcache', heq⟩ := List.mem_map.mp hmem
            rw [← heq]
            exact hfirst cache' hcache'

/-! ### Identifiers of caches -/

theorem commaSeparated_eq_intercalate (items : List Text) :
    commaSeparated items = [44].intercalate items := by
  induction items with
  | nil => rfl
  | cons first rest ih =>
      cases rest with
      | nil => exact List.intercalate_singleton.symm
      | cons second rest =>
          rw [commaSeparated, ih, List.intercalate_cons_cons, List.append_assoc]
          · rfl
          · simp

theorem no_mark {mark : UInt8} (hmark : Protocol.Json.isDigit mark = false) (n : Nat) :
    mark ∉ decimal n := fun hmem => by
  simp [Protocol.Json.decimal_digits n mark hmem] at hmark

theorem decimal_injective : Function.Injective decimal :=
  Function.LeftInverse.injective Protocol.Json.digitsValue_decimal

theorem decimal_ne_nil (n : Nat) : decimal n ≠ [] := by
  rw [decimal]
  split
  · exact List.cons_ne_nil _ _
  · rename_i hne
    simpa [Nat.digits_eq_nil_iff_eq_zero] using hne

/-- Numbers between commas can be read back. -/
theorem commaSeparated_inj {left right : List UInt32}
    (h : commaSeparated (left.map fun cpu => decimal cpu.toNat) =
      commaSeparated (right.map fun cpu => decimal cpu.toNat)) : left = right := by
  have hread : ∀ cpus : List UInt32, cpus ≠ [] →
      (commaSeparated (cpus.map fun cpu => decimal cpu.toNat)).splitOn 44 =
        cpus.map fun cpu => decimal cpu.toNat := by
    intro cpus hne
    rw [commaSeparated_eq_intercalate, List.splitOn_intercalate 44 _ (by simpa using hne)]
    rw [List.forall_mem_map]
    exact fun cpu _ => no_mark (by decide) _
  have hempty : ∀ {cpus : List UInt32},
      commaSeparated (cpus.map fun cpu => decimal cpu.toNat) = [] → cpus = [] := by
    intro cpus hnil
    by_contra hne
    have hmem := congrArg ([] ∈ ·) (hread cpus hne)
    rw [hnil] at hmem
    simp [decimal_ne_nil] at hmem
  by_cases hleft : left = []
  · rw [hleft] at h ⊢
    exact (hempty h.symm).symm
  · by_cases hright : right = []
    · rw [hright] at h
      exact absurd (hempty h) hleft
    · have hmaps := hread left hleft
      rw [h, hread right hright] at hmaps
      refine List.map_injective_iff.mpr (fun cpu other hsame => ?_) hmaps.symm
      exact UInt32.toNat.inj (decimal_injective hsame)

theorem mem_commaSeparated {byte : UInt8} {items : List Text}
    (h : byte ∈ commaSeparated items) : byte = 44 ∨ ∃ item ∈ items, byte ∈ item := by
  induction items with
  | nil => cases h
  | cons first rest ih =>
      cases rest with
      | nil => exact Or.inr ⟨first, List.mem_cons_self, h⟩
      | cons second rest =>
          rw [commaSeparated, List.mem_append, List.mem_cons] at h
          · rcases h with h | rfl | h
            · exact Or.inr ⟨first, List.mem_cons_self, h⟩
            · exact Or.inl rfl
            · exact (ih h).imp_right fun ⟨item, hitem, hbyte⟩ =>
                ⟨item, List.mem_cons_of_mem first hitem, hbyte⟩
          · simp

/-- Two texts that are cut at their first mark have the same parts. -/
theorem mark_inj {mark : UInt8} {left left' right right' : Text} (h : mark ∉ left)
    (h' : mark ∉ left') (heq : left ++ mark :: right = left' ++ mark :: right') :
    left = left' ∧ right = right' := by
  obtain ⟨hleft, hright⟩ := split_mark right h
  obtain ⟨hleft', hright'⟩ := split_mark right' h'
  rw [heq] at hleft hright
  exact ⟨hleft.symm.trans hleft', hright.symm.trans hright'⟩

theorem cacheId_injective : Function.Injective cacheId := by
  intro left right h
  have hshape : ∀ key : CacheKey, cacheId key = ascii "L" ++ (decimal key.level.toNat ++
      58 :: (key.kind ++ 58 :: commaSeparated (key.cpus.map fun cpu => decimal cpu.toNat))) := by
    intro key
    have hcolon : ascii ":" = [58] := by decide
    simp [cacheId, hcolon]
  have hcpus : ∀ key : CacheKey,
      58 ∉ (commaSeparated (key.cpus.map fun cpu => decimal cpu.toNat)).reverse := by
    intro key hmem
    rcases mem_commaSeparated (List.mem_reverse.mp hmem) with hbyte | ⟨item, hitem, hbyte⟩
    · cases hbyte
    · obtain ⟨cpu, -, rfl⟩ := List.mem_map.mp hitem
      exact no_mark (by decide) _ hbyte
  rw [hshape, hshape] at h
  -- the level ends at the first colon, and the processors begin after the last one
  obtain ⟨hlevel, hrest⟩ := mark_inj (no_mark (by decide) _) (no_mark (by decide) _)
    (List.append_cancel_left h)
  have hreversed := congrArg List.reverse hrest
  simp only [List.reverse_append, List.reverse_cons, List.append_assoc, List.singleton_append]
    at hreversed
  obtain ⟨hlast, hkind⟩ := mark_inj (hcpus left) (hcpus right) hreversed
  have hlevel := UInt32.toNat.inj (decimal_injective hlevel)
  have hkind := List.reverse_injective hkind
  have hshared := commaSeparated_inj (List.reverse_injective hlast)
  cases left
  cases right
  simp_all

/-! ### The scan of the caches -/

/-- What the scan has kept: its keys are in order, and the last level is the largest level of a
cache that holds data, or zero. -/
structure CacheScan.Sound (scan : CacheScan) : Prop where
  sorted : scan.caches.Pairwise fun left right => left.1.before right.1 = true
  bounded : ∀ key ∈ scan.caches.map Prod.fst, holdsData key.kind = true →
    key.level ≤ scan.lastLevel
  reached : scan.lastLevel ≠ 0 →
    ∃ top ∈ scan.caches.map Prod.fst, holdsData top.kind = true ∧ top.level = scan.lastLevel

theorem CacheScan.Sound.add {scan : CacheScan} (h : scan.Sound) (indexRoot : Text)
    (index : CacheIndex) : (scan.add indexRoot index).Sound := by
  have hmem : ∀ key, key ∈ (scan.add indexRoot index).caches.map Prod.fst ↔
      key = ⟨index.level, index.kind, index.shared⟩ ∨ key ∈ scan.caches.map Prod.fst :=
    fun key => mem_emplaceCache key
  have hsorted : (scan.add indexRoot index).caches.Pairwise
      fun left right => left.1.before right.1 = true := emplaceCache_sorted h.sorted
  by_cases hdata : holdsData index.kind = true
  · have hlast : (scan.add indexRoot index).lastLevel = max scan.lastLevel index.level :=
      if_pos hdata
    refine ⟨hsorted, fun key hkey hholds => ?_, fun hne => ?_⟩
    · rw [hlast, UInt32.le_iff_toNat_le, UInt32.toNat_max]
      rcases (hmem key).mp hkey with rfl | hkey
      · exact le_max_right _ _
      · exact (UInt32.le_iff_toNat_le.mp (h.bounded key hkey hholds)).trans (le_max_left _ _)
    · rw [hlast] at hne ⊢
      by_cases hle : scan.lastLevel ≤ index.level
      · rw [show max scan.lastLevel index.level = index.level from if_pos hle]
        exact ⟨_, (hmem _).mpr (Or.inl rfl), hdata, rfl⟩
      · rw [show max scan.lastLevel index.level = scan.lastLevel from if_neg hle] at hne ⊢
        obtain ⟨top, htop, hrest⟩ := h.reached hne
        exact ⟨top, (hmem top).mpr (Or.inr htop), hrest⟩
  · have hlast : (scan.add indexRoot index).lastLevel = scan.lastLevel := if_neg hdata
    have hold : ∀ key ∈ (scan.add indexRoot index).caches.map Prod.fst,
        holdsData key.kind = true → key ∈ scan.caches.map Prod.fst := by
      intro key hkey hholds
      rcases (hmem key).mp hkey with rfl | hkey
      · exact absurd hholds hdata
      · exact hkey
    refine ⟨hsorted, fun key hkey hholds => ?_, fun hne => ?_⟩
    · rw [hlast]
      exact h.bounded key (hold key hkey hholds) hholds
    · rw [hlast] at hne ⊢
      obtain ⟨top, htop, hrest⟩ := h.reached hne
      exact ⟨top, (hmem top).mpr (Or.inr htop), hrest⟩

theorem scanCaches_sound (snapshot : LinuxSnapshot) (online : List UInt32) :
    (scanCaches snapshot online).Sound := by
  have hscan : ∀ (indexRoots : List Text) (scan : CacheScan), scan.Sound →
      (indexRoots.foldl (scanCache snapshot) scan).Sound := by
    intro indexRoots
    induction indexRoots with
    | nil => exact fun scan h => h
    | cons indexRoot rest ih =>
        intro scan h
        refine ih _ ?_
        rw [scanCache]
        split
        · exact h.add indexRoot _
        · exact ⟨h.sorted, h.bounded, h.reached⟩
  exact hscan _ _ ⟨.nil, nofun, fun hne => absurd rfl hne⟩

/-! ### The scan of the nodes -/

variable {scan : NodeScan}

theorem place_settled {path : Text} {node : UInt32} {cpus : List UInt32}
    (h : (cpus.foldl (NodeScan.place path node) scan).errors = []) : scan.errors = [] ∧
      (cpus.foldl (NodeScan.place path node) scan).cpuToNode =
        scan.cpuToNode ++ cpus.map (·, node) ∧
      ∀ cpu ∈ cpus, cpu ∉ scan.cpuToNode.map Prod.fst := by
  induction cpus generalizing scan with
  | nil => exact ⟨h, by simp, by simp⟩
  | cons cpu rest ih =>
      rw [List.foldl_cons] at h ⊢
      obtain ⟨herrors, hplaced, hfresh⟩ := ih h
      rw [NodeScan.place] at herrors hplaced hfresh ⊢
      split at herrors
      · simp at herrors
      · rename_i hnew
        rw [if_neg hnew] at hplaced hfresh ⊢
        have hcpu : cpu ∉ scan.cpuToNode.map Prod.fst := by
          intro hmem
          obtain ⟨earlier, hearlier, rfl⟩ := List.mem_map.mp hmem
          exact hnew (List.any_eq_true.mpr ⟨earlier, hearlier, decide_eq_true rfl⟩)
        refine ⟨herrors, by simpa using hplaced, List.forall_mem_cons.mpr ⟨hcpu, ?_⟩⟩
        intro other hother hmem
        exact hfresh other hother (by simp [hmem])

/-- A processor is placed in a node exactly when an entry of the node names it, and no two entries
name the same processor. -/
structure NodeScan.Sound (scan : NodeScan) : Prop where
  placed : ∀ cpu node, (cpu, node) ∈ scan.cpuToNode ↔
    ∃ entry ∈ scan.nodes, entry.nodeId = node ∧ cpu ∈ entry.logicalCpus
  apart : scan.nodes.Pairwise fun left right =>
    ∀ cpu ∈ left.logicalCpus, cpu ∉ right.logicalCpus

/-- One turn that breaks no rule: the file is none of a node, or it adds an entry whose processors
were in no node before. -/
theorem scanNode_settled {file : Text × Text} (h : (scanNode scan file).errors = []) :
    scan.errors = [] ∧ (scanNode scan file = scan ∨ ∃ node cpus,
      (scanNode scan file).cpuToNode = scan.cpuToNode ++ cpus.map (·, node) ∧
      (scanNode scan file).nodes = scan.nodes ++ [⟨node, cpus⟩] ∧
      ∀ cpu ∈ cpus, cpu ∉ scan.cpuToNode.map Prod.fst) := by
  unfold scanNode at h ⊢
  split at h
  · rename_i hother
    rw [if_pos hother]
    exact ⟨h, Or.inl rfl⟩
  · rename_i hnode
    rw [if_neg hnode]
    split at h
    · rename_i node cpus hid hcpus
      obtain ⟨herrors, hplaced, hfresh⟩ := place_settled h
      refine ⟨herrors, Or.inr ⟨node, cpus, hplaced, ?_, hfresh⟩⟩
      dsimp only
      rw [place_nodes]
    · rename_i hread
      simp only [List.append_eq_nil_iff] at h
      obtain ⟨_, hid⟩ := (explained_parseInteger _ _ _ _).value h.1.2
      obtain ⟨_, hcpus⟩ := (explained_parseCpuList _ _).value h.2
      exact (hread _ _ hid hcpus).elim

theorem NodeScan.Sound.add {next : NodeScan} (h : scan.Sound) {node : UInt32} {cpus : List UInt32}
    (hplaced : next.cpuToNode = scan.cpuToNode ++ cpus.map (·, node))
    (hnodes : next.nodes = scan.nodes ++ [⟨node, cpus⟩])
    (hfresh : ∀ cpu ∈ cpus, cpu ∉ scan.cpuToNode.map Prod.fst) : next.Sound := by
  constructor
  · intro cpu other
    rw [hplaced, hnodes, List.mem_append, h.placed]
    simp only [List.mem_append, List.mem_singleton, or_and_right, exists_or, exists_eq_left,
      List.mem_map, Prod.mk.injEq]
    refine or_congr_right ⟨?_, fun ⟨hnode, hcpu⟩ => ⟨cpu, hcpu, rfl, hnode⟩⟩
    rintro ⟨_, hcpu, rfl, hnode⟩
    exact ⟨hnode, hcpu⟩
  · rw [hnodes, List.pairwise_append]
    refine ⟨h.apart, List.pairwise_singleton _ _, fun entry hentry last hlast cpu hcpu hmem => ?_⟩
    rw [List.mem_singleton.mp hlast] at hmem
    have hearlier := (h.placed cpu entry.nodeId).mpr ⟨entry, hentry, rfl, hcpu⟩
    exact hfresh cpu hmem (List.mem_map_of_mem hearlier)

theorem scanNodes_sound (h : (scanNodes snapshot).errors = []) : (scanNodes snapshot).Sound := by
  have hscan : ∀ files : List (Text × Text), (files.foldl scanNode ⟨[], [], []⟩).errors = [] →
      (files.foldl scanNode ⟨[], [], []⟩).Sound := by
    intro files
    induction files using List.reverseRecOn with
    | nil => exact fun _ => ⟨by simp, .nil⟩
    | append_singleton files file ih =>
        rw [List.foldl_append, List.foldl_cons, List.foldl_nil]
        intro herrors
        obtain ⟨hearlier, hsame | ⟨node, cpus, hplaced, hnodes, hfresh⟩⟩ :=
          scanNode_settled herrors
        · rw [hsame]
          exact ih hearlier
        · exact (ih hearlier).add hplaced hnodes hfresh
  exact hscan _ h

/-- The entry that names a processor is the only one. -/
theorem NodeScan.Sound.filter_eq (h : scan.Sound) {entry : NumaNode} (hentry : entry ∈ scan.nodes)
    {cpu : UInt32} (hcpu : cpu ∈ entry.logicalCpus) :
    scan.nodes.filter (cpu ∈ ·.logicalCpus) = [entry] := by
  have hmem : entry ∈ scan.nodes.filter (cpu ∈ ·.logicalCpus) :=
    List.mem_filter.mpr ⟨hentry, decide_eq_true hcpu⟩
  have hnames : ∀ other ∈ scan.nodes.filter (cpu ∈ ·.logicalCpus), cpu ∈ other.logicalCpus :=
    fun other hother => of_decide_eq_true (List.mem_filter.mp hother).2
  have hapart := h.apart.filter fun entry => decide (cpu ∈ entry.logicalCpus)
  generalize scan.nodes.filter (cpu ∈ ·.logicalCpus) = named at hmem hnames hapart
  match named with
  | [] => cases hmem
  | [only] => rw [List.mem_singleton.mp hmem]
  | first :: second :: rest =>
      have hfirst := hnames first List.mem_cons_self
      have hsecond := hnames second (List.mem_cons_of_mem _ List.mem_cons_self)
      exact absurd hsecond ((List.pairwise_cons.mp hapart).1 second List.mem_cons_self cpu hfirst)

/-! ### The inventory -/

theorem holds_of_require {holds : Bool} {error : Error} (h : require holds error = []) :
    holds = true := by
  rw [require] at h
  split at h
  · assumption
  · cases h

theorem explained_readCpu (snapshot : LinuxSnapshot) (cpuToNode : List (UInt32 × UInt32))
    (caches : List (CacheKey × UInt64)) (cpu : UInt32) :
    Explained (readCpu snapshot cpuToNode caches cpu) := by
  intro h
  unfold readCpu at h
  dsimp only at h
  split at h
  · split at h
    · cases h
    · rename_i hread
      simp only [Except.error.injEq, List.append_eq_nil_iff] at h
      obtain ⟨⟨⟨hcore, hpackage⟩, hsiblings⟩, hnode⟩ := h
      obtain ⟨_, hcore⟩ := (explained_parseInteger _ _ _ _).value hcore
      obtain ⟨_, hpackage⟩ := (explained_parseInteger _ _ _ _).value hpackage
      obtain ⟨_, hsiblings⟩ := (explained_parseCpuList _ _).value hsiblings
      obtain ⟨_, hnode⟩ := Option.isSome_iff_exists.mp (holds_of_require hnode)
      exact hread _ _ _ _ hcore hpackage hsiblings hnode
  · rename_i hread
    simp only [Except.error.injEq, List.append_eq_nil_iff] at h
    obtain ⟨⟨hcore, hpackage⟩, hsiblings⟩ := h
    obtain ⟨_, hcore⟩ := (explained_requiredFile _ _).value hcore
    obtain ⟨_, hpackage⟩ := (explained_requiredFile _ _).value hpackage
    obtain ⟨_, hsiblings⟩ := (explained_requiredFile _ _).value hsiblings
    exact hread _ _ _ hcore hpackage hsiblings

/-- What is read of a processor besides its core. -/
theorem readCpu_ok {cpuToNode : List (UInt32 × UInt32)} {cpu : UInt32} {read : LogicalCpu}
    (h : readCpu snapshot cpuToNode caches cpu = .ok read) :
    read.logicalId = cpu ∧ (cpu, read.numaNode) ∈ cpuToNode ∧
      read.cacheDomains = (caches.filter fun cache => cpu ∈ cache.1.cpus).map (cacheId ·.1) := by
  unfold readCpu at h
  dsimp only at h
  split at h
  · split at h
    · rename_i hnode
      obtain rfl := Except.ok.inj h
      obtain ⟨placed, hplaced, rfl⟩ := Option.map_eq_some_iff.mp hnode
      have hcpu : placed.1 = cpu := by simpa using List.find?_some hplaced
      refine ⟨rfl, ?_, rfl⟩
      rw [← hcpu]
      exact List.mem_of_find?_eq_some hplaced
    · cases h
  · cases h

/-- A loop that breaks no rule keeps what every turn of it read. -/
theorem readings_settled {S T : Type} {read : S → Result T}
    (hread : ∀ value, Explained (read value))
    {values : List S} (h : (values.map read).flatMap errorsOf = []) :
    List.Forall₂ (fun value result => read value = .ok result) values
      (readings (values.map read)) := by
  induction values with
  | nil => exact .nil
  | cons value rest ih =>
      rw [List.map_cons, List.flatMap_cons, List.append_eq_nil_iff] at h
      obtain ⟨result, hresult⟩ := (hread value).value h.1
      have hkept : readings ((value :: rest).map read) = result :: readings (rest.map read) := by
        simp [readings, hresult, Except.toOption]
      rw [hkept]
      exact .cons hresult (ih h.2)

/-- The loops over the nodes and the processors, when none of them broke a rule. -/
theorem readInventory_settled {cpuinfo : Text} {online : List UInt32} {page : UInt64}
    (h : readInventory build snapshot cpuinfo online page = .ok inventory) :
    (scanNodes snapshot).errors = [] ∧
      inventory.numaNodes.Perm (scanNodes snapshot).nodes ∧
      List.Forall₂ (fun cpu read => readCpu snapshot (scanNodes snapshot).cpuToNode
        (scanCaches snapshot online).caches cpu = .ok read) online inventory.logicalCpus := by
  unfold readInventory at h
  dsimp only at h
  split at h
  · rename_i names line hnone hnames hline
    obtain rfl := Except.ok.inj h
    simp only [List.append_eq_nil_iff] at hnone
    obtain ⟨⟨⟨⟨⟨⟨hnodes, -⟩, -⟩, -⟩, hcpus⟩, -⟩, -⟩ := hnone
    exact ⟨hnodes, List.perm_insertionSort _ _,
      readings_settled (explained_readCpu snapshot _ _) hcpus⟩
  · cases h

/-- The last levels are the data caches that no data cache is above. -/
theorem cacheDomains_lastLevel {scan : CacheScan} (h : scan.Sound) {domain : CacheDomain}
    (hdomain : domain ∈ cacheDomains scan) : domain.lastLevel = true ↔
      holdsData domain.kind = true ∧
        ∀ other ∈ cacheDomains scan, holdsData other.kind = true → other.level ≤ domain.level := by
  obtain ⟨cache, hcache, rfl⟩ := List.mem_map.mp hdomain
  have hkey : cache.1 ∈ scan.caches.map Prod.fst := List.mem_map_of_mem hcache
  rw [Bool.and_eq_true, decide_eq_true_eq]
  constructor
  · rintro ⟨hlevel, hholds⟩
    refine ⟨hholds, fun other hother hdata => ?_⟩
    obtain ⟨top, htop, rfl⟩ := List.mem_map.mp hother
    rw [hlevel]
    exact h.bounded top.1 (List.mem_map_of_mem htop) hdata
  · rintro ⟨hholds, habove⟩
    refine ⟨UInt32.le_antisymm (h.bounded cache.1 hkey hholds) ?_, hholds⟩
    by_cases hnone : scan.lastLevel = 0
    · rw [hnone]
      exact UInt32.zero_le
    · obtain ⟨_, hreached, hdata, hlevel⟩ := h.reached hnone
      obtain ⟨top, htop, rfl⟩ := List.mem_map.mp hreached
      rw [← hlevel]
      exact habove _ (List.mem_map_of_mem htop) hdata

/-- How the parts of an inventory agree. -/
structure Consistent (snapshot : LinuxSnapshot) (inventory : PlatformInventory) : Prop where
  online : inventory.logicalCpus.map (·.logicalId) = onlineCpus snapshot
  increasing : (inventory.logicalCpus.map (·.logicalId)).Pairwise (· < ·)
  /-- One entry names the processor, and it is that of its node. -/
  nodes : ∀ cpu ∈ inventory.logicalCpus, ∃ entry,
    inventory.numaNodes.filter (cpu.logicalId ∈ ·.logicalCpus) = [entry] ∧
      entry.nodeId = cpu.numaNode
  distinct : (inventory.cacheDomains.map (·.domainId)).Nodup
  domains : ∀ cpu ∈ inventory.logicalCpus, cpu.cacheDomains =
    (inventory.cacheDomains.filter (cpu.logicalId ∈ ·.sharedCpus)).map (·.domainId)
  lastLevel : ∀ domain ∈ inventory.cacheDomains, domain.lastLevel = true ↔
    (domain.kind = ascii "Data" ∨ domain.kind = ascii "Unified") ∧
      ∀ other ∈ inventory.cacheDomains, other.kind = ascii "Data" ∨ other.kind = ascii "Unified" →
        other.level ≤ domain.level

/-- **Every inventory that is read from a snapshot is consistent.** -/
theorem parsed_consistent (h : parseLinuxSnapshot build snapshot = .ok inventory) :
    Consistent snapshot inventory := by
  obtain ⟨-, hsorted, cpuinfo, pageText, page, -, -, hread⟩ := parsed h
  obtain ⟨-, -, -, -, -, -, hdomains, -⟩ := readInventory_ok hread
  obtain ⟨herrors, hnodes, hcpus⟩ := readInventory_settled hread
  have hplaced := scanNodes_sound herrors
  have hscan := scanCaches_sound snapshot (onlineCpus snapshot)
  have honline : inventory.logicalCpus.map (·.logicalId) = onlineCpus snapshot := by
    have hsame := List.forall₂_map_right_iff.mpr (hcpus.imp fun cpu read h => (readCpu_ok h).1.symm)
    rw [List.forall₂_eq_eq_eq] at hsame
    exact hsame.symm
  have hcpus : ∀ cpu ∈ inventory.logicalCpus,
      (cpu.logicalId, cpu.numaNode) ∈ (scanNodes snapshot).cpuToNode ∧
        cpu.cacheDomains = ((scanCaches snapshot (onlineCpus snapshot)).caches.filter
          fun cache => cpu.logicalId ∈ cache.1.cpus).map (cacheId ·.1) := by
    have hall := (List.forall₂_and_left _ _).mp (hcpus.flip.imp fun read cpu h => ⟨by
      obtain ⟨rfl, hnode, hcaches⟩ := readCpu_ok h
      exact And.intro hnode hcaches, h⟩)
    exact hall.1
  refine ⟨honline, honline ▸ hsorted, fun cpu hcpu => ?_, ?_, fun cpu hcpu => ?_,
    fun domain hdomain => ?_⟩
  · obtain ⟨entry, hentry, hnode, hnamed⟩ := (hplaced.placed _ _).mp (hcpus cpu hcpu).1
    refine ⟨entry, ?_, hnode⟩
    have hperm := hnodes.filter fun entry => decide (cpu.logicalId ∈ entry.logicalCpus)
    rw [hplaced.filter_eq hentry hnamed] at hperm
    exact List.perm_singleton.mp hperm
  · rw [hdomains, cacheDomains, List.map_map]
    have hkeys : ((scanCaches snapshot (onlineCpus snapshot)).caches.map Prod.fst).Nodup := by
      refine List.Pairwise.map _ (fun left right hbefore => ?_) hscan.sorted
      intro heq
      rw [heq] at hbefore
      exact before_irrefl _ hbefore
    have hids := hkeys.map cacheId_injective
    rwa [List.map_map] at hids
  · rw [(hcpus cpu hcpu).2, hdomains, cacheDomains, List.filter_map, List.map_map]
    rfl
  · rw [hdomains] at hdomain ⊢
    have hlast := cacheDomains_lastLevel hscan hdomain
    simpa only [holdsData, Bool.or_eq_true, decide_eq_true_eq] using hlast

theorem parsed_consistent_sample : ∃ inventory,
    parseLinuxSnapshot sampleBuild (sampleSnapshot "4096") = .ok inventory ∧
      Consistent (sampleSnapshot "4096") inventory := by
  cases hread : parseLinuxSnapshot sampleBuild (sampleSnapshot "4096") with
  | error errors =>
      have hsome : (parseLinuxSnapshot sampleBuild (sampleSnapshot "4096")).toOption.isSome :=
        by decide +kernel
      rw [hread] at hsome
      cases hsome
  | ok inventory => exact ⟨inventory, rfl, parsed_consistent hread⟩

end CpuPrefetch.Platform
