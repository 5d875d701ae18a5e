import DocumentClient.Text.Percent

namespace DocumentClient.Url

open Text

def isControl (c : Char) : Bool := c.toNat < 0x20 || 0x7E < c.toNat

def inFragment (c : Char) : Bool := isControl c || [' ', '"', '<', '>', '\x60'].contains c

def inQuery (c : Char) : Bool := isControl c || [' ', '"', '#', '<', '>'].contains c

def inSpecialQuery (c : Char) : Bool := inQuery c || c = '\x27'

def inPath (c : Char) : Bool := inQuery c || ['?', '\x60', '\x7b', '\x7d'].contains c

def inSegment (c : Char) : Bool := inPath c || ['/', '%'].contains c

def inSpecialSegment (c : Char) : Bool := inSegment c || c = '\\'

def inUserInfo (c : Char) : Bool :=
  inPath c || ['/', ':', ';', '=', '@', '[', '\\', ']', '^', '|'].contains c

end DocumentClient.Url
