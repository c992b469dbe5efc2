import Marginalia.Duration
import Marginalia.Path

/-!
# Faults

What can go wrong while a source file is documented, and the words for it. A fault concerns one
file only; its kind is a fixed name and its message tells the particulars.
-/

namespace Marginalia

/-! ## Refusals of the system -/

/-- A refusal of the operating system, by number or in words. -/
inductive SystemError where
  | code (number : Nat)
  | note (text : Text)
  deriving DecidableEq

namespace SystemError

/-- The system's words for a number. -/
def words : Nat → String
  | 0 => "Success"
  | 1 => "Operation not permitted"
  | 2 => "No such file or directory"
  | 3 => "No such process"
  | 4 => "Interrupted system call"
  | 5 => "Input/output error"
  | 6 => "No such device or address"
  | 7 => "Argument list too long"
  | 8 => "Exec format error"
  | 9 => "Bad file descriptor"
  | 10 => "No child processes"
  | 11 => "Resource temporarily unavailable"
  | 12 => "Cannot allocate memory"
  | 13 => "Permission denied"
  | 14 => "Bad address"
  | 15 => "Block device required"
  | 16 => "Device or resource busy"
  | 17 => "File exists"
  | 18 => "Invalid cross-device link"
  | 19 => "No such device"
  | 20 => "Not a directory"
  | 21 => "Is a directory"
  | 22 => "Invalid argument"
  | 23 => "Too many open files in system"
  | 24 => "Too many open files"
  | 25 => "Inappropriate ioctl for device"
  | 26 => "Text file busy"
  | 27 => "File too large"
  | 28 => "No space left on device"
  | 29 => "Illegal seek"
  | 30 => "Read-only file system"
  | 31 => "Too many links"
  | 32 => "Broken pipe"
  | 33 => "Numerical argument out of domain"
  | 34 => "Numerical result out of range"
  | 35 => "Resource deadlock avoided"
  | 36 => "File name too long"
  | 37 => "No locks available"
  | 38 => "Function not implemented"
  | 39 => "Directory not empty"
  | 40 => "Too many levels of symbolic links"
  | 42 => "No message of desired type"
  | 43 => "Identifier removed"
  | 44 => "Channel number out of range"
  | 45 => "Level 2 not synchronized"
  | 46 => "Level 3 halted"
  | 47 => "Level 3 reset"
  | 48 => "Link number out of range"
  | 49 => "Protocol driver not attached"
  | 50 => "No CSI structure available"
  | 51 => "Level 2 halted"
  | 52 => "Invalid exchange"
  | 53 => "Invalid request descriptor"
  | 54 => "Exchange full"
  | 55 => "No anode"
  | 56 => "Invalid request code"
  | 57 => "Invalid slot"
  | 59 => "Bad font file format"
  | 60 => "Device not a stream"
  | 61 => "No data available"
  | 62 => "Timer expired"
  | 63 => "Out of streams resources"
  | 64 => "Machine is not on the network"
  | 65 => "Package not installed"
  | 66 => "Object is remote"
  | 67 => "Link has been severed"
  | 68 => "Advertise error"
  | 69 => "Srmount error"
  | 70 => "Communication error on send"
  | 71 => "Protocol error"
  | 72 => "Multihop attempted"
  | 73 => "RFS specific error"
  | 74 => "Bad message"
  | 75 => "Value too large for defined data type"
  | 76 => "Name not unique on network"
  | 77 => "File descriptor in bad state"
  | 78 => "Remote address changed"
  | 79 => "Can not access a needed shared library"
  | 80 => "Accessing a corrupted shared library"
  | 81 => ".lib section in a.out corrupted"
  | 82 => "Attempting to link in too many shared libraries"
  | 83 => "Cannot exec a shared library directly"
  | 84 => "Invalid or incomplete multibyte or wide character"
  | 85 => "Interrupted system call should be restarted"
  | 86 => "Streams pipe error"
  | 87 => "Too many users"
  | 88 => "Socket operation on non-socket"
  | 89 => "Destination address required"
  | 90 => "Message too long"
  | 91 => "Protocol wrong type for socket"
  | 92 => "Protocol not available"
  | 93 => "Protocol not supported"
  | 94 => "Socket type not supported"
  | 95 => "Operation not supported"
  | 96 => "Protocol family not supported"
  | 97 => "Address family not supported by protocol"
  | 98 => "Address already in use"
  | 99 => "Cannot assign requested address"
  | 100 => "Network is down"
  | 101 => "Network is unreachable"
  | 102 => "Network dropped connection on reset"
  | 103 => "Software caused connection abort"
  | 104 => "Connection reset by peer"
  | 105 => "No buffer space available"
  | 106 => "Transport endpoint is already connected"
  | 107 => "Transport endpoint is not connected"
  | 108 => "Cannot send after transport endpoint shutdown"
  | 109 => "Too many references: cannot splice"
  | 110 => "Connection timed out"
  | 111 => "Connection refused"
  | 112 => "Host is down"
  | 113 => "No route to host"
  | 114 => "Operation already in progress"
  | 115 => "Operation now in progress"
  | 116 => "Stale file handle"
  | 117 => "Structure needs cleaning"
  | 118 => "Not a XENIX named type file"
  | 119 => "No XENIX semaphores available"
  | 120 => "Is a named type file"
  | 121 => "Remote I/O error"
  | 122 => "Disk quota exceeded"
  | 123 => "No medium found"
  | 124 => "Wrong medium type"
  | 125 => "Operation canceled"
  | 126 => "Required key not available"
  | 127 => "Key has expired"
  | 128 => "Key has been revoked"
  | 129 => "Key was rejected by service"
  | 130 => "Owner died"
  | 131 => "State not recoverable"
  | 132 => "Operation not possible due to RF-kill"
  | 133 => "Memory page has hardware error"
  | n => "Unknown error " ++ String.ofList (Text.ofNat n)

/-- There is nothing at the path. -/
def notFound : SystemError := .code 2

/-- The file's format cannot be run. -/
def notRunnable : SystemError := .code 8

/-- The permissions do not allow it. -/
def denied : SystemError := .code 13

/-- There is something at the path already. -/
def taken : SystemError := .code 17

/-- A step of the path leads through something that is no directory. -/
def notDirectory : SystemError := .code 20

/-- A directory stands where a file is wanted. -/
def isDirectory : SystemError := .code 21

/-- Nobody reads the other end of the pipe. -/
def brokenPipe : SystemError := .code 32

/-- A name on the path has more than 255 octets. -/
def nameTooLong : SystemError := .code 36

/-- The contents are no text. -/
def notText : SystemError := .note "stream did not contain valid UTF-8".toList

/-- The words of a refusal. -/
def message : SystemError → Text
  | .code n => (words n).toList ++ " (os error ".toList ++ Text.ofNat n ++ [')']
  | .note text => text

end SystemError

/-! ## Faults of a source file -/

/-- Why a run of the highlighter failed. -/
inductive HighlightFailure where
  /-- The program could not be started. -/
  | spawn (program : Text) (cause : SystemError)
  /-- The program did not take all of its input. -/
  | pipe (cause : SystemError)
  /-- The program ended without success. -/
  | exit (status : Text) (complaint : Text)
  /-- The program's output is no text. -/
  | encoding
  /-- The program did not end in time. -/
  | timeout (limit : Duration)
  deriving DecidableEq

/-- The words for a failure of the highlighter. -/
def HighlightFailure.message : HighlightFailure → Text
  | .spawn program cause =>
    "could not spawn '".toList ++ program ++ "': ".toList ++ cause.message
  | .pipe cause => "pipe error: ".toList ++ cause.message
  | .exit status complaint => "exited with ".toList ++ status ++ ": ".toList ++ complaint
  | .encoding => "output is not valid UTF-8".toList
  | .timeout limit => "timed out after ".toList ++ limit.text

/-- Why a source file has no page. -/
inductive Fault where
  /-- No language is registered for the path's extension. -/
  | unsupported (path : Path)
  /-- The highlighter failed for a language. -/
  | highlight (language : Text) (reason : HighlightFailure)
  /-- The highlighted code did not fall into one fragment per section. -/
  | misaligned (expected found : Nat)
  /-- Reading the source or writing the page failed. -/
  | system (cause : SystemError)
  deriving DecidableEq

namespace Fault

/-- The fixed name of a fault's kind. -/
def kind : Fault → String
  | .unsupported _ => "UnsupportedLanguage"
  | .highlight _ _ => "HighlightProcessFailure"
  | .misaligned _ _ => "SectionAlignmentFailure"
  | .system _ => "Io"

/-- The words for a fault. -/
def message : Fault → Text
  | .unsupported path => "no language registered for '".toList ++ path.text ++ ['\'']
  | .highlight language reason =>
    "highlighter failed for ".toList ++ language ++ ": ".toList ++ reason.message
  | .misaligned expected found =>
    "expected ".toList ++ Text.ofNat expected ++ " highlighted fragments, found ".toList ++
      Text.ofNat found
  | .system cause => "IO error: ".toList ++ cause.message

end Fault

end Marginalia
