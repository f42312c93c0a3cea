import ZfsLocalPv.Go.Bytes

/-!
# Listing the pools of a node

`decodeListOutput` reads what `zfs list -d 1 -s name -o name,guid,available,used -H -p` prints.
The output of a command is its standard output and its standard error, so it may be any text; the
fields of a line are read by their index, and an index that is not there is a panic.
-/

namespace ZfsLocalPv.Zfs

open Go

/-- `apis.Pool` as it is read. Quantities are numbers of bytes. -/
structure ListedPool where
  name : Bytes
  uuid : Bytes
  free : Int
  used : Int
  deriving DecidableEq

/-- A size that is no integer, reported as the free size of the pool also when it is the used
one. -/
structure SizeError where
  pool : Bytes
  err : NumError
  deriving DecidableEq

/-- What a line amounts to. -/
inductive LineResult
  | skip
  | pool (pool : ListedPool)
  | failed (err : SizeError)
  | crash
  deriving DecidableEq

/-- The fields of a line. -/
def items (line : Bytes) : List Bytes :=
  (trimSpaceBytes line).splitOn tab

/-- The rest of a turn of the loop once the line is known to be about a pool. -/
def decodePool (name : Bytes) : List Bytes → LineResult
  -- `items[1]` or `items[2]` is not there
  | [] | [_] => .crash
  | uuid :: free :: rest =>
      match parseIntBytes free with
      | .error err => .failed ⟨name, err⟩
      | .ok sizeBytes =>
          match rest with
          -- `items[3]` is not there
          | [] => .crash
          | used :: _ =>
              match parseIntBytes used with
              | .error err => .failed ⟨name, err⟩
              | .ok usedBytes => .pool ⟨name, uuid, sizeBytes, usedBytes⟩

/-- One turn of the loop. -/
def decodeLine (line : Bytes) : LineResult :=
  match items line with
  | [] => .crash
  | name :: columns => if slash ∈ name then .skip else decodePool name columns

/-- The pools that are returned, with an error or without one. -/
inductive Decoded
  | pools (pools : List ListedPool)
  | failed (pools : List ListedPool) (err : SizeError)
  | crash
  deriving DecidableEq

/-- The loop over the lines. -/
def decodeLines (pools : List ListedPool) : List Bytes → Decoded
  | [] => .pools pools
  | line :: lines =>
      match decodeLine line with
      | .skip => decodeLines pools lines
      | .pool pool => decodeLines (pools ++ [pool]) lines
      | .failed err => .failed pools err
      | .crash => .crash

/-- `decodeListOutput`. The error of the scanner is not looked at. -/
def decodeListOutput (raw : Bytes) : Decoded :=
  decodeLines [] (scanLines raw)

/-! ## What `zfs` prints -/

/-- A dataset of the listing: a pool with its sizes, or a dataset below a pool. -/
inductive Listed
  | pool (name guid : Bytes) (available used : Int)
  | child (name guid available used : Bytes)

namespace Listed

def name : Listed → Bytes
  | pool name _ _ _ => name
  | child name _ _ _ => name

def guid : Listed → Bytes
  | pool _ guid _ _ => guid
  | child _ guid _ _ => guid

/-- The two size columns. -/
def sizes : Listed → Bytes × Bytes
  | pool _ _ available used => (bytesOf (formatInt available), bytesOf (formatInt used))
  | child _ _ available used => (available, used)

/-- The line of a dataset, without its newline. -/
def line (listed : Listed) : Bytes :=
  [tab].intercalate [listed.name, listed.guid, listed.sizes.1, listed.sizes.2]

/-- What the driver is to know of a dataset. -/
def asPool : Listed → Option ListedPool
  | pool name guid available used => some ⟨name, guid, available, used⟩
  | child .. => none

end Listed

/-- The output of the command. -/
def render (datasets : List Listed) : Bytes :=
  datasets.flatMap fun listed => listed.line ++ [newline]

end ZfsLocalPv.Zfs
