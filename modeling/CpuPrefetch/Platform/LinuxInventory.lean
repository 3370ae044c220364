/-
Reading a platform inventory from a snapshot of procfs and sysfs.

A snapshot is a map from paths to the bytes of the files.  The loops of the reader collect every
error and go on; an inventory is made when there is none.  What the compiler knows of the build
is a parameter.
-/
import CpuPrefetch.Platform.Inventory
import CpuPrefetch.Protocol.Json

namespace CpuPrefetch.Platform

open Protocol (Text ascii decimal)

/-! ### Snapshots -/

/-- `std::map` of paths to contents. -/
structure SnapshotFiles where
  entries : List (Text × Text)
  sorted : entries.Pairwise fun left right => left.1 < right.1
  bounded : entries.length < 2 ^ 64

structure LinuxSnapshot where
  snapshotId : Text
  capturedAtUtc : Text
  kernelRelease : Text
  files : SnapshotFiles

/-- The identity of the compiler and its library, and the pointer atomics of the target. -/
structure BuildIdentity where
  compiler : Text
  standardLibrary : Text
  atomicWidthBits : UInt64
  atomicAlignmentBytes : UInt64
  pointerAtomicLockFree : Bool
  compiler_named : compiler ≠ []
  library_named : standardLibrary ≠ []
  width_positive : atomicWidthBits ≠ 0
  alignment_positive : atomicAlignmentBytes ≠ 0

def SnapshotFiles.find (files : SnapshotFiles) (path : Text) : Option Text :=
  (files.entries.find? (·.1 = path)).map Prod.snd

/-- `Result::errors`. -/
def errorsOf {T : Type} : Result T → List Error
  | .ok _ => []
  | .error errors => errors

/-! ### Texts -/

/-- `std::isspace` of the C locale. -/
def isSpace (byte : UInt8) : Bool := byte = 32 || (9 ≤ byte && byte ≤ 13)

def trim (text : Text) : Text := (text.dropWhile isSpace).rdropWhile isSpace

/-- `std::from_chars` of an unsigned number of this many bits, which must be the whole text. -/
def fromChars (bits : Nat) (text : Text) : Option Nat :=
  if text.isEmpty || !text.all Protocol.Json.isDigit then none
  else if Protocol.Json.digitsValue text < 2 ^ bits then some (Protocol.Json.digitsValue text)
  else none

/-- `std::from_chars` of an `std::int32_t`. -/
def fromSignedChars (text : Text) : Option Int32 :=
  match text with
  | 45 :: digits =>
      (fromChars 32 digits).bind fun value =>
        if value ≤ 2 ^ 31 then some (.ofInt (-(value : Int))) else none
  | digits => (fromChars 31 digits).map fun value => .ofInt value

def notAnInteger (path : Text) (ruleId : String) : List Error :=
  [⟨.parseError, path, ruleId, "expected a canonical decimal integer"⟩]

/-- `parse_integer`, with what reads the trimmed text. -/
def parseInteger {T : Type} (read : Text → Option T) (text path : Text) (ruleId : String) :
    Result T :=
  match read (trim text) with
  | some value => .ok value
  | none => .error (notAnInteger path ruleId)

def parseUint32 : Text → Text → String → Result UInt32 :=
  parseInteger fun text => (fromChars 32 text).map .ofNat

def parseUint64 : Text → Text → String → Result UInt64 :=
  parseInteger fun text => (fromChars 64 text).map .ofNat

def parseInt32 : Text → Text → String → Result Int32 := parseInteger fromSignedChars

variable (snapshot : LinuxSnapshot)

def requiredFile (path : Text) : Result Text :=
  match snapshot.files.find path with
  | some text => .ok (trim text)
  | none =>
      .error [⟨.missingEvidence, path, "PLT-LINUX-REQUIRED-FILE",
        "required Linux inventory evidence is unavailable"⟩]

def optionalFile (path : Text) : Option Text :=
  (snapshot.files.find path).map trim

/-- The loop of `cpuinfo_value`, over the lines. -/
def cpuinfoLines (key : Text) : List Text → Option Text
  | [] => none
  | line :: rest =>
      if line.isEmpty then none
      else
        match line.dropWhile (· ≠ 58) with
        | [] => cpuinfoLines key rest
        | _ :: value =>
            if trim (line.takeWhile (· ≠ 58)) = key then some (trim value)
            else cpuinfoLines key rest

def cpuinfoValue (cpuinfo : Text) (key : String) : Option Text :=
  cpuinfoLines (ascii key) (cpuinfo.splitOn 10)

/-- The factor of a size's suffix, and whether there is one. -/
def sizeMultiplier (suffix : UInt8) : Option UInt64 :=
  if suffix = 75 || suffix = 107 then some 1024
  else if suffix = 77 || suffix = 109 then some (1024 * 1024)
  else if suffix = 71 || suffix = 103 then some (1024 * 1024 * 1024)
  else none

def cacheSizeBytes (text path : Text) : Result UInt64 :=
  match (trim text).getLast? with
  | none => .error [⟨.parseError, path, "PLT-CACHE-SIZE", "cache size must not be empty"⟩]
  | some suffix => do
      let multiplier := (sizeMultiplier suffix).getD 1
      let number := if (sizeMultiplier suffix).isSome then (trim text).dropLast else trim text
      let value ← parseUint64 number path "PLT-CACHE-SIZE"
      if value > 0xffffffffffffffff / multiplier then
        .error [⟨.parseError, ascii "$inventory/cache", "PLT-CACHE-SIZE",
          "cache size overflows uint64 bytes"⟩]
      else .ok (value * multiplier)

/-! ### Lists of processors -/

/-- `std::set::insert`; none when the processor is there already. -/
def insertCpu (value : UInt32) : List UInt32 → Option (List UInt32)
  | [] => some [value]
  | first :: rest =>
      if value < first then some (value :: first :: rest)
      else if value = first then none
      else (insertCpu value rest).map (first :: ·)

/-- The loop over a range, with the number of processors left. -/
def insertRange : Nat → Nat → List UInt32 → Option (List UInt32)
  | 0, _, values => some values
  | count + 1, value, values =>
      (insertCpu (.ofNat value) values).bind (insertRange count (value + 1))

/-- The loop over a range as it is written, with a 64-bit counter; none when the fuel runs out. -/
def rangeLoop (last : UInt32) : Nat → UInt64 → List UInt32 → Option (Option (List UInt32))
  | 0, _, _ => none
  | fuel + 1, value, values =>
      if value ≤ last.toUInt64 then
        match insertCpu value.toUInt32 values with
        | some values => rangeLoop last fuel (value + 1) values
        | none => some none
      else some (some values)

/-- The texts between commas; nothing comes after a comma at the end. -/
def cpuTokens (cleaned : Text) : List Text :=
  let tokens := cleaned.splitOn 44
  if tokens.getLast? = some [] then tokens.dropLast else tokens

/-- The processors from the first to the last join those read before. -/
def addRange (path : Text) (values : List UInt32) (first last : UInt32) : Result (List UInt32) :=
  if last < first then
    .error [⟨.parseError, path, "PLT-CPU-LIST-RANGE", "CPU-list range ends before it starts"⟩]
  else
    match insertRange (last.toNat - first.toNat + 1) first.toNat values with
    | some values => .ok values
    | none =>
        .error [⟨.parseError, path, "PLT-CPU-LIST-DUPLICATE",
          "CPU list contains a duplicate logical CPU"⟩]

def parseCpuToken (path : Text) (values : List UInt32) (token : Text) : Result (List UInt32) := do
  let first ← parseUint32 (token.takeWhile (· ≠ 45)) path "PLT-CPU-LIST"
  let last ←
    if 45 ∈ token then parseUint32 ((token.dropWhile (· ≠ 45)).drop 1) path "PLT-CPU-LIST"
    else .ok first
  addRange path values first last

def parseCpuList (text path : Text) : Result (List UInt32) :=
  (cpuTokens (trim text)).foldlM (parseCpuToken path) []

/-- The loop over the texts between commas as it is written, from a position; none when the fuel
runs out. -/
def cpuListLoop (cleaned path : Text) : Nat → Nat → List UInt32 → Option (Result (List UInt32))
  | 0, _, _ => none
  | fuel + 1, start, values =>
      if start < cleaned.length then
        let token := (cleaned.drop start).takeWhile (· ≠ 44)
        match parseCpuToken path values token with
        | .ok values => cpuListLoop cleaned path fuel (start + token.length + 1) values
        | .error errors => some (.error errors)
      else some (.ok values)

/-! ### Memory nodes -/

/-- What `substr` leaves of a path between a start and an end of it; the count wraps around
when they overlap, and then the rest of the path is taken. -/
def between (start finish path : Text) : Text :=
  if path.length < start.length + finish.length then path.drop start.length
  else (path.drop start.length).take (path.length - start.length - finish.length)

structure NodeScan where
  cpuToNode : List (UInt32 × UInt32)
  nodes : List NumaNode
  errors : List Error

/-- A processor of a node; its node is the first that names it. -/
def NodeScan.place (path : Text) (node : UInt32) (scan : NodeScan) (cpu : UInt32) : NodeScan :=
  if scan.cpuToNode.any (·.1 = cpu) then
    { scan with
      errors := scan.errors ++ [⟨.parseError, path, "PLT-NODE-MEMBERSHIP",
        "logical CPU belongs to multiple NUMA nodes"⟩] }
  else { scan with cpuToNode := scan.cpuToNode ++ [(cpu, node)] }

def nodePrefix : Text := ascii "/sys/devices/system/node/node"

def nodeSuffix : Text := ascii "/cpulist"

/-- One turn of the loop over the files that looks for memory nodes. -/
def scanNode (scan : NodeScan) (file : Text × Text) : NodeScan :=
  if !(nodePrefix.isPrefixOf file.1 && nodeSuffix.isSuffixOf file.1) then scan
  else
    match parseUint32 (between nodePrefix nodeSuffix file.1) file.1 "PLT-NODE-ID",
        parseCpuList file.2 file.1 with
    | .ok node, .ok cpus =>
        let placed := cpus.foldl (NodeScan.place file.1 node) scan
        { placed with nodes := placed.nodes ++ [⟨node, cpus⟩] }
    | node, cpus => { scan with errors := scan.errors ++ errorsOf node ++ errorsOf cpus }

def scanNodes : NodeScan :=
  snapshot.files.entries.foldl scanNode ⟨[], [], []⟩

/-! ### Caches -/

structure CacheKey where
  level : UInt32
  kind : Text
  cpus : List UInt32
  deriving DecidableEq

/-- `CacheKey::operator<`. -/
def CacheKey.before (left right : CacheKey) : Bool :=
  left.level < right.level ||
    (left.level = right.level &&
      (left.kind < right.kind || (left.kind = right.kind && left.cpus < right.cpus)))

/-- `std::map::emplace` of a cache: the map, and the size it has under the key. -/
def emplaceCache (key : CacheKey) (size : UInt64) :
    List (CacheKey × UInt64) → List (CacheKey × UInt64) × UInt64
  | [] => ([(key, size)], size)
  | (other, held) :: rest =>
      if key.before other then ((key, size) :: (other, held) :: rest, size)
      else if key = other then ((other, held) :: rest, held)
      else
        let emplaced := emplaceCache key size rest
        ((other, held) :: emplaced.1, emplaced.2)

/-- The five files of one cache of a processor. -/
structure CacheIndex where
  level : UInt32
  kind : Text
  shared : List UInt32
  size : UInt64
  line : UInt64
  deriving DecidableEq

def readCacheIndex (indexRoot : Text) : Result CacheIndex :=
  match requiredFile snapshot (indexRoot ++ ascii "/level"),
      requiredFile snapshot (indexRoot ++ ascii "/type"),
      requiredFile snapshot (indexRoot ++ ascii "/shared_cpu_list"),
      requiredFile snapshot (indexRoot ++ ascii "/size"),
      requiredFile snapshot (indexRoot ++ ascii "/coherency_line_size") with
  | .ok levelText, .ok kind, .ok sharedText, .ok sizeText, .ok lineText =>
      match parseUint32 levelText indexRoot "PLT-CACHE-LEVEL", parseCpuList sharedText indexRoot,
          cacheSizeBytes sizeText indexRoot, parseUint64 lineText indexRoot "PLT-CACHE-LINE" with
      | .ok level, .ok shared, .ok size, .ok line => .ok ⟨level, trim kind, shared, size, line⟩
      | level, shared, size, line =>
          .error (errorsOf level ++ errorsOf shared ++ errorsOf size ++ errorsOf line)
  | levelText, kind, sharedText, sizeText, lineText =>
      .error (errorsOf levelText ++ errorsOf kind ++ errorsOf sharedText ++ errorsOf sizeText ++
        errorsOf lineText)

structure CacheScan where
  caches : List (CacheKey × UInt64)
  lastLevel : UInt32
  cacheLineBytes : Option UInt64
  errors : List Error

/-- A cache that holds data. -/
def holdsData (kind : Text) : Bool := kind = ascii "Data" || kind = ascii "Unified"

def CacheScan.add (scan : CacheScan) (indexRoot : Text) (index : CacheIndex) : CacheScan :=
  let emplaced := emplaceCache ⟨index.level, index.kind, index.shared⟩ index.size scan.caches
  { caches := emplaced.1
    lastLevel := if holdsData index.kind then max scan.lastLevel index.level else scan.lastLevel
    cacheLineBytes := some index.line
    errors := scan.errors ++
      require (emplaced.2 = index.size)
        ⟨.parseError, indexRoot, "PLT-CACHE-CONSISTENCY",
          "one cache domain has inconsistent sizes"⟩ ++
      require (scan.cacheLineBytes.all (· = index.line))
        ⟨.parseError, indexRoot, "PLT-CACHE-LINE-CONSISTENCY",
          "cache-line size differs across observed caches"⟩ }

/-- One turn of the loops over the processors and their caches. -/
def scanCache (scan : CacheScan) (indexRoot : Text) : CacheScan :=
  match readCacheIndex snapshot indexRoot with
  | .ok index => scan.add indexRoot index
  | .error errors => { scan with errors := scan.errors ++ errors }

def cpuRoot (cpu : UInt32) : Text := ascii "/sys/devices/system/cpu/cpu" ++ decimal cpu.toNat

/-- The directories of the caches of a processor, in the order of the files. -/
def cacheIndexRoots (cpu : UInt32) : List Text :=
  (snapshot.files.entries.filter fun file =>
    (cpuRoot cpu ++ ascii "/cache/").isPrefixOf file.1 && (ascii "/level").isSuffixOf file.1).map
      fun file => file.1.take (file.1.length - (ascii "/level").length)

def scanCaches (online : List UInt32) : CacheScan :=
  (online.flatMap (cacheIndexRoots snapshot)).foldl (scanCache snapshot) ⟨[], 0, none, []⟩

def cacheId (key : CacheKey) : Text :=
  ascii "L" ++ decimal key.level.toNat ++ ascii ":" ++ key.kind ++ ascii ":" ++
    Protocol.Json.commaSeparated (key.cpus.map fun cpu => decimal cpu.toNat)

def cacheDomains (scan : CacheScan) : List CacheDomain :=
  scan.caches.map fun cache =>
    ⟨cacheId cache.1, cache.1.level, cache.1.kind, cache.2, cache.1.cpus,
      cache.1.level = scan.lastLevel && holdsData cache.1.kind⟩

/-! ### Processors -/

def readCpu (cpuToNode : List (UInt32 × UInt32)) (caches : List (CacheKey × UInt64))
    (cpu : UInt32) : Result LogicalCpu :=
  let root := cpuRoot cpu
  match requiredFile snapshot (root ++ ascii "/topology/core_id"),
      requiredFile snapshot (root ++ ascii "/topology/physical_package_id"),
      requiredFile snapshot (root ++ ascii "/topology/thread_siblings_list") with
  | .ok coreText, .ok packageText, .ok siblingText =>
      let node := (cpuToNode.find? (·.1 = cpu)).map Prod.snd
      match parseUint32 coreText root "PLT-CORE-ID", parseUint32 packageText root "PLT-PACKAGE-ID",
          parseCpuList siblingText root, node with
      | .ok core, .ok package, .ok siblings, some node =>
          .ok
            { logicalId := cpu
              coreId := core
              packageId := package
              numaNode := node
              threadSiblings := siblings
              cacheDomains := (caches.filter fun cache => cpu ∈ cache.1.cpus).map (cacheId ·.1)
              online := true }
      | core, package, siblings, node =>
          .error (errorsOf core ++ errorsOf package ++ errorsOf siblings ++
            require node.isSome ⟨.missingEvidence, root, "PLT-CPU-NODE",
              "online CPU has no NUMA-node readback"⟩)
  | coreText, packageText, siblingText =>
      .error (errorsOf coreText ++ errorsOf packageText ++ errorsOf siblingText)

/-- What a loop keeps of its turns. -/
def readings {T : Type} (results : List (Result T)) : List T :=
  results.filterMap fun result => result.toOption

/-! ### Devices -/

def pciPrefix : Text := ascii "/sys/bus/pci/devices/"

def vendorSuffix : Text := ascii "/vendor"

/-- A file that may be missing, with the errors of reading it. -/
def readOptional {T : Type} (text : Option Text) (read : Text → Result T) :
    Option T × List Error :=
  match text.map read with
  | none => (none, [])
  | some (.ok value) => (some value, [])
  | some (.error errors) => (none, errors)

/-- One turn of the loop over the files that looks for devices. -/
def readPciDevice (file : Text × Text) : Option PciDevice × List Error :=
  if !(pciPrefix.isPrefixOf file.1 && vendorSuffix.isSuffixOf file.1) then (none, [])
  else
    let address := between pciPrefix vendorSuffix file.1
    let root := pciPrefix ++ address
    match optionalFile snapshot (root ++ ascii "/device"),
        optionalFile snapshot (root ++ ascii "/class") with
    | some device, some deviceClass =>
        let node := readOptional (optionalFile snapshot (root ++ ascii "/numa_node"))
          fun text => parseInt32 text root "PLT-PCI-NODE"
        let localCpus := readOptional (optionalFile snapshot (root ++ ascii "/local_cpulist"))
          fun text => parseCpuList text root
        (some ⟨address, trim file.2, device, deviceClass, node.1, localCpus.1.getD []⟩,
          node.2 ++ localCpus.2)
    | _, _ => (none, [])

/-! ### Observations -/

def sourceValue (name source : String) : EvidenceValue :=
  ⟨name, ascii source, optionalFile snapshot (ascii source)⟩

def combineOptional (paths : List String) : Option Text :=
  let combined := paths.foldl (fun combined path =>
    match optionalFile snapshot (ascii path) with
    | none => combined
    | some value =>
        (if combined.isEmpty then [] else combined ++ [59]) ++ ascii path ++ 61 :: value) []
  if combined.isEmpty then none else some combined

def combinedValue (name source : String) (paths : List String) : EvidenceValue :=
  ⟨name, ascii source, combineOptional snapshot paths⟩

def readObservations : List EvidenceValue :=
  [combinedValue snapshot "firmware" "dmi-sysfs"
      ["/sys/class/dmi/id/bios_vendor", "/sys/class/dmi/id/bios_version",
        "/sys/class/dmi/id/bios_date", "/sys/class/dmi/id/product_name"],
    combinedValue snapshot "cpufreq" "cpufreq-sysfs"
      ["/sys/devices/system/cpu/cpufreq/policy0/scaling_governor",
        "/sys/devices/system/cpu/cpufreq/policy0/scaling_max_freq"],
    combinedValue snapshot "turbo" "platform-turbo-sysfs"
      ["/sys/devices/system/cpu/intel_pstate/no_turbo", "/sys/devices/system/cpu/cpufreq/boost"],
    combinedValue snapshot "cpuidle" "cpuidle-sysfs"
      ["/sys/devices/system/cpu/cpuidle/current_driver",
        "/sys/devices/system/cpu/cpuidle/current_governor_ro"],
    combinedValue snapshot "smt" "smt-sysfs"
      ["/sys/devices/system/cpu/smt/active", "/sys/devices/system/cpu/smt/control"],
    sourceValue snapshot "interrupt_affinity" "/proc/irq/default_smp_affinity",
    combinedValue snapshot "cpu_isolation" "sysfs+kernel-cmdline"
      ["/sys/devices/system/cpu/isolated", "/sys/devices/system/cpu/nohz_full", "/proc/cmdline"],
    sourceValue snapshot "clock_source"
      "/sys/devices/system/clocksource/clocksource0/current_clocksource",
    combinedValue snapshot "huge_pages" "thp-sysfs+proc-meminfo"
      ["/sys/kernel/mm/transparent_hugepage/enabled", "/proc/meminfo"],
    sourceValue snapshot "memory_population" "/proc/meminfo"]

/-! ### The inventory -/

structure CpuNames where
  vendor : Text
  model : Text
  stepping : Text
  microcode : Text
  deriving DecidableEq

def cpuNames (cpuinfo : Text) : Option CpuNames := do
  let vendor ← cpuinfoValue cpuinfo "vendor_id"
  let model ← cpuinfoValue cpuinfo "model name"
  let stepping ← cpuinfoValue cpuinfo "stepping"
  let microcode ← cpuinfoValue cpuinfo "microcode"
  some ⟨vendor, model, stepping, microcode⟩

/-- The reader once the online processors and the page size are known. -/
def readInventory (build : BuildIdentity) (snapshot : LinuxSnapshot) (cpuinfo : Text)
    (online : List UInt32) (basePage : UInt64) : Result PlatformInventory :=
  let nodes := scanNodes snapshot
  let caches := scanCaches snapshot online
  let cpus := online.map (readCpu snapshot nodes.cpuToNode caches.caches)
  let names := cpuNames cpuinfo
  let devices := snapshot.files.entries.map (readPciDevice snapshot)
  let errors :=
    nodes.errors ++
    require (!nodes.nodes.isEmpty)
      ⟨.missingEvidence, ascii "$snapshot/topology/numa", "PLT-NUMA-TOPOLOGY",
        "NUMA topology must be read rather than inferred"⟩ ++
    caches.errors ++
    require (!(caches.caches.isEmpty || caches.cacheLineBytes.isNone))
      ⟨.missingEvidence, ascii "$snapshot/topology/cache", "PLT-CACHE-TOPOLOGY",
        "cache domains and coherency line size are required"⟩ ++
    cpus.flatMap errorsOf ++
    require names.isSome
      ⟨.missingEvidence, ascii "$snapshot/cpuinfo", "PLT-CPU-IDENTITY",
        "vendor, model, stepping, and microcode are required"⟩ ++
    devices.flatMap Prod.snd
  match errors, names, caches.cacheLineBytes with
  | [], some names, some line =>
      .ok
        { snapshotId := snapshot.snapshotId
          capturedAtUtc := snapshot.capturedAtUtc
          cpu :=
            { vendor := names.vendor
              model := names.model
              stepping := names.stepping
              microcode := names.microcode
              cacheLineBytes := line
              atomicWidthBits := build.atomicWidthBits
              atomicAlignmentBytes := build.atomicAlignmentBytes
              pointerAtomicLockFree := build.pointerAtomicLockFree }
          software :=
            { operatingSystem := ascii "Linux"
              kernel := snapshot.kernelRelease
              compiler := build.compiler
              standardLibrary := build.standardLibrary
              languageStandard := ascii "C++20" }
          basePageBytes := basePage
          logicalCpus := readings cpus
          cacheDomains := cacheDomains caches
          -- `std::sort`, which may leave nodes with one identifier in any order
          numaNodes := nodes.nodes.insertionSort fun left right => left.nodeId ≤ right.nodeId
          pciDevices := devices.filterMap Prod.fst
          observations := readObservations snapshot }
  | errors, _, _ => .error errors

def onlinePath : Text := ascii "/sys/devices/system/cpu/online"

def pagePath : Text := ascii "runtime/base_page_bytes"

def parseLinuxSnapshot (build : BuildIdentity) (snapshot : LinuxSnapshot) :
    Result PlatformInventory :=
  let errors :=
    require (!snapshot.snapshotId.isEmpty)
      ⟨.missingEvidence, ascii "$snapshot/id", "PLT-SNAPSHOT-ID", "snapshot ID is required"⟩ ++
    require (!snapshot.capturedAtUtc.isEmpty)
      ⟨.missingEvidence, ascii "$snapshot/captured_at_utc", "PLT-SNAPSHOT-TIME",
        "explicit capture time is required"⟩ ++
    require (!snapshot.kernelRelease.isEmpty)
      ⟨.missingEvidence, ascii "$snapshot/kernel", "PLT-SNAPSHOT-KERNEL",
        "kernel release is required"⟩
  match errors, requiredFile snapshot onlinePath, requiredFile snapshot (ascii "/proc/cpuinfo"),
      requiredFile snapshot pagePath with
  | [], .ok onlineText, .ok cpuinfo, .ok pageSize =>
      match parseCpuList onlineText (ascii "$snapshot/cpu/online"),
          parseUint64 pageSize (ascii "$snapshot/memory/base_page_bytes") "PLT-BASE-PAGE" with
      | .ok online, .ok basePage =>
          if online.isEmpty then
            .error [⟨.missingEvidence, ascii "$snapshot/cpu/online", "PLT-ONLINE-CPU",
              "at least one online CPU is required"⟩]
          else readInventory build snapshot cpuinfo online basePage
      | online, basePage => .error (errorsOf online ++ errorsOf basePage)
  | errors, onlineText, cpuinfo, pageSize =>
      .error (errors ++ errorsOf onlineText ++ errorsOf cpuinfo ++ errorsOf pageSize)

end CpuPrefetch.Platform
