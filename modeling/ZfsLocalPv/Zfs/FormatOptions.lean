import ZfsLocalPv.Go.Strings

/-!
# Format options

The defaults of a node for `mkfs`, from the `--default-format-options` flags, and the options a
volume is formatted with.
-/

namespace ZfsLocalPv.Zfs

open Go

/-- The filesystem an empty type stands for. -/
def fsTypeDefault : String := "ext4"

/-- The filesystems that are put on a zvol. -/
def formattableFsTypes : List String :=
  ["ext2", "ext3", "ext4", "xfs", "btrfs"]

/-- The `--default-format-options` of a node, by filesystem. An earlier entry of the list
hides a later one. -/
abbrev FormatDefaults := List (String × List String)

/-- The loop of `SetDefaultFormatOptions`. -/
def collectFormatOptions (options : FormatDefaults) : List String → Except String FormatDefaults
  | [] => .ok options
  | entry :: entries =>
      match cut '=' entry with
      | none =>
          .error ("format options " ++ quote entry ++ " are not in the <fstype>=<options> form")
      | some (fstype, value) =>
          let fstype := toLower (trimSpace fstype)
          if fstype ∈ formattableFsTypes then
            match fields value with
            | [] => collectFormatOptions options entries
            | value => collectFormatOptions ((fstype, value) :: options) entries
          else
            .error ("format options " ++ quote entry ++ " are for " ++ quote fstype ++
              ", which is not one of the formatted filesystems")

/-- `SetDefaultFormatOptions`: its result and the defaults after it. -/
def setDefaultFormatOptions (entries : List String) (defaults : FormatDefaults) :
    Except String Unit × FormatDefaults :=
  match collectFormatOptions [] entries with
  | .error message => (.error message, defaults)
  | .ok options => (.ok (), options)

/-- `FormatOptions`: the options of the storage class, or else those of the node. -/
def formatOptions (defaults : FormatDefaults) (fstype scOptions : String) : List String :=
  if fields scOptions ≠ [] then
    fields scOptions
  else
    let fstype := toLower (trimSpace fstype)
    (defaults.lookup (if fstype = "" then fsTypeDefault else fstype)).getD []

end ZfsLocalPv.Zfs
