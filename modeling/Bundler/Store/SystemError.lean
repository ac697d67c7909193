/-!
# Errors of the system

What the operating system answers when it refuses to read or write: the number of an error, with the text that Linux
gives for it, or a text of the store itself.
-/

namespace Bundler

/-- The texts of the numbered errors, beginning with number 1; a number without a text is empty. -/
def systemErrorTexts : List String := [
  "Operation not permitted", "No such file or directory", "No such process", "Interrupted system call",
  "Input/output error", "No such device or address", "Argument list too long", "Exec format error",
  "Bad file descriptor", "No child processes", "Resource temporarily unavailable", "Cannot allocate memory",
  "Permission denied", "Bad address", "Block device required", "Device or resource busy", "File exists",
  "Invalid cross-device link", "No such device", "Not a directory", "Is a directory", "Invalid argument",
  "Too many open files in system", "Too many open files", "Inappropriate ioctl for device", "Text file busy",
  "File too large", "No space left on device", "Illegal seek", "Read-only file system", "Too many links",
  "Broken pipe", "Numerical argument out of domain", "Numerical result out of range", "Resource deadlock avoided",
  "File name too long", "No locks available", "Function not implemented", "Directory not empty",
  "Too many levels of symbolic links", "", "No message of desired type", "Identifier removed",
  "Channel number out of range", "Level 2 not synchronized", "Level 3 halted", "Level 3 reset",
  "Link number out of range", "Protocol driver not attached", "No CSI structure available", "Level 2 halted",
  "Invalid exchange", "Invalid request descriptor", "Exchange full", "No anode", "Invalid request code",
  "Invalid slot", "", "Bad font file format", "Device not a stream", "No data available", "Timer expired",
  "Out of streams resources", "Machine is not on the network", "Package not installed", "Object is remote",
  "Link has been severed", "Advertise error", "Srmount error", "Communication error on send", "Protocol error",
  "Multihop attempted", "RFS specific error", "Bad message", "Value too large for defined data type",
  "Name not unique on network", "File descriptor in bad state", "Remote address changed",
  "Can not access a needed shared library", "Accessing a corrupted shared library",
  ".lib section in a.out corrupted", "Attempting to link in too many shared libraries",
  "Cannot exec a shared library directly", "Invalid or incomplete multibyte or wide character",
  "Interrupted system call should be restarted", "Streams pipe error", "Too many users",
  "Socket operation on non-socket", "Destination address required", "Message too long",
  "Protocol wrong type for socket", "Protocol not available", "Protocol not supported",
  "Socket type not supported", "Operation not supported", "Protocol family not supported",
  "Address family not supported by protocol", "Address already in use", "Cannot assign requested address",
  "Network is down", "Network is unreachable", "Network dropped connection on reset",
  "Software caused connection abort", "Connection reset by peer", "No buffer space available",
  "Transport endpoint is already connected", "Transport endpoint is not connected",
  "Cannot send after transport endpoint shutdown", "Too many references: cannot splice", "Connection timed out",
  "Connection refused", "Host is down", "No route to host", "Operation already in progress",
  "Operation now in progress", "Stale file handle", "Structure needs cleaning", "Not a XENIX named type file",
  "No XENIX semaphores available", "Is a named type file", "Remote I/O error", "Disk quota exceeded",
  "No medium found", "Wrong medium type", "Operation canceled", "Required key not available", "Key has expired",
  "Key has been revoked", "Key was rejected by service", "Owner died", "State not recoverable",
  "Operation not possible due to RF-kill", "Memory page has hardware error"]

/-- The text of a numbered error. -/
def systemErrorText : Int → String
  | .ofNat 0 => "Success"
  | .ofNat (n + 1) =>
    match systemErrorTexts[n]? with
    | some text => if text.isEmpty then "Unknown error " ++ toString (n + 1) else text
    | none => "Unknown error " ++ toString (n + 1)
  | number => "Unknown error " ++ toString number

/-- Why a store could not read or write. -/
inductive StoreError where
  /-- The operating system refused with this number. -/
  | system (number : Int)
  /-- The store refused with this text. -/
  | custom (text : String)
  deriving DecidableEq, Inhabited, Repr

namespace StoreError

def message : StoreError → String
  | .system number => systemErrorText number ++ " (os error " ++ toString number ++ ")"
  | .custom text => text

/-- No entry of that name. -/
def noSuchEntry : StoreError := .system 2

/-- An entry of that name exists. -/
def entryExists : StoreError := .system 17

/-- Something on the way is no directory. -/
def notADirectory : StoreError := .system 20

/-- A directory stands where a file is wanted. -/
def isADirectory : StoreError := .system 21

/-- A name or the whole path is too long. -/
def nameTooLong : StoreError := .system 36

/-- The path holds a zero byte. -/
def zeroInName : StoreError := .custom "file name contained an unexpected NUL byte"

/-- A file that is read as text is not UTF-8. -/
def notText : StoreError := .custom "stream did not contain valid UTF-8"

end StoreError

end Bundler
