/-!
The error numbers a message transport answers with, and their texts.
-/

namespace NodeFeed

inductive Errno where
  | eacces
  | eaddrinuse
  | eagain
  | ebusy
  | econnrefused
  | efault
  | eintr
  | ehostunreach
  | einprogress
  | einval
  | emfile
  | emsgsize
  | enametoolong
  | enodev
  | enoent
  | enomem
  | enotconn
  | enotsock
  | eproto
  | eprotonosupport
  | enotsup
  | enobufs
  | enetdown
  | eaddrnotavail
  | efsm
  | enocompatproto
  | eterm
  | emthread
  deriving DecidableEq, Repr

namespace Errno

def all : List Errno :=
  [eacces, eaddrinuse, eagain, ebusy, econnrefused, efault, eintr, ehostunreach, einprogress,
   einval, emfile, emsgsize, enametoolong, enodev, enoent, enomem, enotconn, enotsock, eproto,
   eprotonosupport, enotsup, enobufs, enetdown, eaddrnotavail, efsm, enocompatproto, eterm,
   emthread]

def name : Errno → String
  | eacces => "EACCES"
  | eaddrinuse => "EADDRINUSE"
  | eagain => "EAGAIN"
  | ebusy => "EBUSY"
  | econnrefused => "ECONNREFUSED"
  | efault => "EFAULT"
  | eintr => "EINTR"
  | ehostunreach => "EHOSTUNREACH"
  | einprogress => "EINPROGRESS"
  | einval => "EINVAL"
  | emfile => "EMFILE"
  | emsgsize => "EMSGSIZE"
  | enametoolong => "ENAMETOOLONG"
  | enodev => "ENODEV"
  | enoent => "ENOENT"
  | enomem => "ENOMEM"
  | enotconn => "ENOTCONN"
  | enotsock => "ENOTSOCK"
  | eproto => "EPROTO"
  | eprotonosupport => "EPROTONOSUPPORT"
  | enotsup => "ENOTSUP"
  | enobufs => "ENOBUFS"
  | enetdown => "ENETDOWN"
  | eaddrnotavail => "EADDRNOTAVAIL"
  | efsm => "EFSM"
  | enocompatproto => "ENOCOMPATPROTO"
  | eterm => "ETERM"
  | emthread => "EMTHREAD"

def message : Errno → String
  | eacces => "Permission denied"
  | eaddrinuse => "Address already in use"
  | eagain => "Resource temporarily unavailable"
  | ebusy => "Device or resource busy"
  | econnrefused => "Connection refused"
  | efault => "Bad address"
  | eintr => "Interrupted system call"
  | ehostunreach => "Host unreachable"
  | einprogress => "Operation now in progress"
  | einval => "Invalid argument"
  | emfile => "Too many open files"
  | emsgsize => "Message too long"
  | enametoolong => "File name too long"
  | enodev => "No such device"
  | enoent => "No such file or directory"
  | enomem => "Cannot allocate memory"
  | enotconn => "Transport endpoint is not connected"
  | enotsock => "Socket operation on non-socket"
  | eproto => "Protocol error"
  | eprotonosupport => "Protocol not supported"
  | enotsup => "Operation not supported"
  | enobufs => "No buffer space available"
  | enetdown => "Network is down"
  | eaddrnotavail => "Cannot assign requested address"
  | efsm => "Operation cannot be accomplished in current state"
  | enocompatproto => "The protocol is not compatible with the socket type"
  | eterm => "Context was terminated"
  | emthread => "No thread available"

def ofName? (name : String) : Option Errno := all.find? fun e => e.name == name

end Errno
end NodeFeed
