import MbedMqtt.Library.OrderedAssoc

namespace MbedMqtt

abbrev TREE23_INSERT_ACTIVE : Int := -2
abbrev TREE23_DELETE_ACTIVE : Int := -1
abbrev TREE23_BI_NODE : Int := 2
abbrev TREE23_TRI_NODE : Int := 3

inductive Tree23Node (K V : Type) where
  | null
  | node (type : Int) (telm0 telm1 : Option (K × V)) (left midle right : Tree23Node K V)
  deriving DecidableEq, Repr

namespace Tree23Node

variable {K V : Type}

def isNull : Tree23Node K V → Bool
  | null => true
  | node .. => false

def addLeft2 : Tree23Node K V → Option (Tree23Node K V)
  | null => none
  | node type telm0 telm1 left midle right =>
      match left with
      | null => some (node type telm0 telm1 left midle right)
      | node ntype ntelm0 _ nleft _ nright =>
          if ntype = TREE23_INSERT_ACTIVE then
            some (node TREE23_TRI_NODE ntelm0 telm0 nleft nright right)
          else some (node type telm0 telm1 left midle right)

def addLeft3 : Tree23Node K V → Option (Tree23Node K V)
  | null => none
  | node type telm0 telm1 left midle right =>
      match left with
      | null => some (node type telm0 telm1 left midle right)
      | node ntype ntelm0 ntelm1 nleft nmidle nright =>
          if ntype = TREE23_INSERT_ACTIVE then
            some (node TREE23_INSERT_ACTIVE telm0 none
              (node TREE23_BI_NODE ntelm0 ntelm1 nleft nmidle nright) null
              (node TREE23_BI_NODE telm1 none midle null right))
          else some (node type telm0 telm1 left midle right)

def addRight2 : Tree23Node K V → Option (Tree23Node K V)
  | null => none
  | node type telm0 telm1 left midle right =>
      match right with
      | null => some (node type telm0 telm1 left midle right)
      | node ntype ntelm0 _ nleft _ nright =>
          if ntype = TREE23_INSERT_ACTIVE then
            some (node TREE23_TRI_NODE telm0 ntelm0 left nleft nright)
          else some (node type telm0 telm1 left midle right)

def addRight3 : Tree23Node K V → Option (Tree23Node K V)
  | null => none
  | node type telm0 telm1 left midle right =>
      match right with
      | null => some (node type telm0 telm1 left midle right)
      | node ntype ntelm0 ntelm1 nleft nmidle nright =>
          if ntype = TREE23_INSERT_ACTIVE then
            some (node TREE23_INSERT_ACTIVE telm1 none
              (node TREE23_BI_NODE telm0 none left null midle) null
              (node TREE23_BI_NODE ntelm0 ntelm1 nleft nmidle nright))
          else some (node type telm0 telm1 left midle right)

def addMidle3 : Tree23Node K V → Option (Tree23Node K V)
  | null => none
  | node type telm0 telm1 left midle right =>
      match midle with
      | null => some (node type telm0 telm1 left midle right)
      | node ntype ntelm0 ntelm1 nleft nmidle nright =>
          if ntype = TREE23_INSERT_ACTIVE then
            some (node ntype ntelm0 ntelm1 (node TREE23_BI_NODE telm0 none left null nleft) nmidle
              (node TREE23_BI_NODE telm1 none nright null right))
          else some (node type telm0 telm1 left midle right)

def removeLeft2 : Tree23Node K V → Option (Tree23Node K V)
  | null => none
  | node type telm0 telm1 left midle right =>
      match left with
      | null => some (node type telm0 telm1 left midle right)
      | node ntype _ _ _ nmidle _ =>
          if ntype = TREE23_DELETE_ACTIVE then
            match right with
            | null => none
            | node rtype rtelm0 rtelm1 rleft rmidle rright =>
                if rtype = 2 then
                  some (node TREE23_DELETE_ACTIVE none none null
                    (node TREE23_TRI_NODE telm0 rtelm0 nmidle rleft rright) null)
                else if rtype = 3 then
                  some (node TREE23_BI_NODE rtelm0 none
                    (node TREE23_BI_NODE telm0 none nmidle null rleft) null
                    (node TREE23_BI_NODE rtelm1 none rmidle null rright))
                else some (node type telm0 telm1 left midle right)
          else some (node type telm0 telm1 left midle right)

def removeRight2 : Tree23Node K V → Option (Tree23Node K V)
  | null => none
  | node type telm0 telm1 left midle right =>
      match right with
      | null => some (node type telm0 telm1 left midle right)
      | node ntype _ _ _ nmidle _ =>
          if ntype = TREE23_DELETE_ACTIVE then
            match left with
            | null => none
            | node ltype ltelm0 ltelm1 lleft lmidle lright =>
                if ltype = 2 then
                  some (node (-1) none none null
                    (node TREE23_TRI_NODE ltelm0 telm0 lleft lright nmidle) null)
                else if ltype = 3 then
                  some (node TREE23_BI_NODE ltelm1 none
                    (node TREE23_BI_NODE ltelm0 none lleft null lmidle) null
                    (node TREE23_BI_NODE telm0 none lright null nmidle))
                else some (node type telm0 telm1 left midle right)
          else some (node type telm0 telm1 left midle right)

def removeLeft3 : Tree23Node K V → Option (Tree23Node K V)
  | null => none
  | node type telm0 telm1 left midle right =>
      match left with
      | null => some (node type telm0 telm1 left midle right)
      | node ntype _ _ _ nmidle _ =>
          if ntype = TREE23_DELETE_ACTIVE then
            match midle with
            | null => none
            | node mtype mtelm0 mtelm1 mleft mmidle mright =>
                if mtype = 2 then
                  some (node TREE23_BI_NODE telm1 none
                    (node TREE23_TRI_NODE telm0 mtelm0 nmidle mleft mright) null right)
                else if mtype = 3 then
                  some (node TREE23_TRI_NODE mtelm0 telm1
                    (node TREE23_BI_NODE telm0 none nmidle null mleft)
                    (node TREE23_BI_NODE mtelm1 none mmidle null mright) right)
                else some (node type telm0 telm1 left midle right)
          else some (node type telm0 telm1 left midle right)

def removeMidle3 : Tree23Node K V → Option (Tree23Node K V)
  | null => none
  | node type telm0 telm1 left midle right =>
      match midle with
      | null => some (node type telm0 telm1 left midle right)
      | node ntype _ _ _ nmidle _ =>
          if ntype = TREE23_DELETE_ACTIVE then
            match right with
            | null => none
            | node rtype rtelm0 rtelm1 rleft rmidle rright =>
                if rtype = 2 then
                  some (node TREE23_BI_NODE telm0 none left null
                    (node TREE23_TRI_NODE telm1 rtelm0 nmidle rleft rright))
                else if rtype = 3 then
                  some (node TREE23_TRI_NODE telm0 rtelm0 left
                    (node TREE23_BI_NODE telm1 none nmidle null rleft)
                    (node TREE23_BI_NODE rtelm1 none rmidle null rright))
                else some (node type telm0 telm1 left midle right)
          else some (node type telm0 telm1 left midle right)

def removeRight3 : Tree23Node K V → Option (Tree23Node K V)
  | null => none
  | node type telm0 telm1 left midle right =>
      match right with
      | null => some (node type telm0 telm1 left midle right)
      | node ntype _ _ _ nmidle _ =>
          if ntype = TREE23_DELETE_ACTIVE then
            match midle with
            | null => none
            | node mtype mtelm0 mtelm1 mleft mmidle mright =>
                if mtype = 2 then
                  some (node TREE23_BI_NODE telm0 none left null
                    (node TREE23_TRI_NODE mtelm0 telm1 mleft mright nmidle))
                else if mtype = 3 then
                  some (node TREE23_TRI_NODE telm0 mtelm1 left
                    (node TREE23_BI_NODE mtelm0 none mleft null mmidle)
                    (node TREE23_BI_NODE telm1 none mright null nmidle))
                else some (node type telm0 telm1 left midle right)
          else some (node type telm0 telm1 left midle right)

def removeMax : Tree23Node K V → Option (Tree23Node K V × Option (K × V))
  | null => none
  | node type telm0 telm1 left midle right =>
      if right.isNull then
        if type = 2 then
          match telm0 with
          | none => none
          | some e0 => some (node TREE23_DELETE_ACTIVE none none null null null, some e0)
        else if type = 3 then
          match telm1 with
          | none => none
          | some e1 => some (node TREE23_BI_NODE telm0 none null null null, some e1)
        else some (null, none)
      else
        match removeMax right with
        | none => none
        | some (right, elm) =>
            if type = 2 then
              (removeRight2 (node type telm0 telm1 left midle right)).map fun n => (n, elm)
            else if type = 3 then
              (removeRight3 (node type telm0 telm1 left midle right)).map fun n => (n, elm)
            else some (null, elm)

variable (cmp : K → K → Int)

def addNode (elm : K × V) : Tree23Node K V → Option (Tree23Node K V)
  | null => some (node TREE23_INSERT_ACTIVE (some elm) none null null null)
  | node type telm0 telm1 left midle right =>
      match telm0 with
      | none => none
      | some e0 =>
          let cmp0 := cmp elm.1 e0.1
          if type = 2 then
            if cmp0 < 0 then
              (addNode elm left).bind fun left => addLeft2 (node type telm0 telm1 left midle right)
            else if cmp0 = 0 then some (node type (some elm) telm1 left midle right)
            else
              (addNode elm right).bind fun right =>
                addRight2 (node type telm0 telm1 left midle right)
          else if type = 3 then
            match telm1 with
            | none => none
            | some e1 =>
                let cmp1 := cmp elm.1 e1.1
                if cmp0 < 0 then
                  (addNode elm left).bind fun left =>
                    addLeft3 (node type telm0 telm1 left midle right)
                else if cmp0 = 0 then some (node type (some elm) telm1 left midle right)
                else if cmp1 < 0 then
                  (addNode elm midle).bind fun midle =>
                    addMidle3 (node type telm0 telm1 left midle right)
                else if cmp1 = 0 then some (node type telm0 (some elm) left midle right)
                else
                  (addNode elm right).bind fun right =>
                    addRight3 (node type telm0 telm1 left midle right)
          else some null

def add (root : Tree23Node K V) (key : K) (val : V) : Option (Tree23Node K V) :=
  match addNode cmp (key, val) root with
  | none => none
  | some null => none
  | some (node type telm0 telm1 left midle right) =>
      some (node (type.natAbs : Int) telm0 telm1 left midle right)

def removeNode (k : K) : Tree23Node K V → Option (Tree23Node K V)
  | null => some null
  | node type telm0 telm1 left midle right =>
      match telm0 with
      | none => none
      | some e0 =>
          let cmp0 := cmp k e0.1
          if type = 2 then
            if cmp0 < 0 then
              (removeNode k left).bind fun left =>
                removeLeft2 (node type telm0 telm1 left midle right)
            else if cmp0 = 0 then
              if left.isNull then some (node TREE23_DELETE_ACTIVE none none null null null)
              else
                (removeMax left).bind fun (left, maxLeft) =>
                  removeLeft2 (node type maxLeft telm1 left midle right)
            else
              (removeNode k right).bind fun right =>
                removeRight2 (node type telm0 telm1 left midle right)
          else if type = 3 then
            match telm1 with
            | none => none
            | some e1 =>
                let cmp1 := cmp k e1.1
                if cmp0 < 0 then
                  (removeNode k left).bind fun left =>
                    removeLeft3 (node type telm0 telm1 left midle right)
                else if cmp0 = 0 then
                  if left.isNull then some (node TREE23_BI_NODE telm1 none null null null)
                  else
                    (removeMax left).bind fun (left, maxLeft) =>
                      removeLeft3 (node type maxLeft telm1 left midle right)
                else if cmp1 < 0 then
                  (removeNode k midle).bind fun midle =>
                    removeMidle3 (node type telm0 telm1 left midle right)
                else if cmp1 = 0 then
                  if midle.isNull then some (node TREE23_BI_NODE telm0 none null null null)
                  else
                    (removeMax midle).bind fun (midle, maxMidle) =>
                      removeMidle3 (node type telm0 maxMidle left midle right)
                else
                  (removeNode k right).bind fun right =>
                    removeRight3 (node type telm0 telm1 left midle right)
          else some null

def remove (root : Tree23Node K V) (k : K) : Option (Tree23Node K V) :=
  match removeNode cmp k root with
  | none => none
  | some null => some null
  | some (node type telm0 telm1 left midle right) =>
      if type = TREE23_DELETE_ACTIVE then some midle
      else some (node type telm0 telm1 left midle right)

def find (key : K) : Tree23Node K V → Option Bool
  | null => some false
  | node type telm0 telm1 left midle right =>
      match telm0 with
      | none => none
      | some e0 =>
          let cmp0 := cmp key e0.1
          if type = 2 then
            if cmp0 < 0 then find key left
            else if cmp0 = 0 then some true
            else find key right
          else if type = 3 then
            match telm1 with
            | none => none
            | some e1 =>
                let cmp1 := cmp key e1.1
                if cmp0 < 0 then find key left
                else if cmp0 = 0 then some true
                else if cmp1 < 0 then find key midle
                else if cmp1 = 0 then some true
                else find key right
          else none

def getVal (key : K) : Tree23Node K V → Option (Option V)
  | null => some none
  | node type telm0 telm1 left midle right =>
      match telm0 with
      | none => none
      | some e0 =>
          let cmp0 := cmp key e0.1
          if type = 2 then
            if cmp0 < 0 then getVal key left
            else if cmp0 = 0 then some (some e0.2)
            else getVal key right
          else if type = 3 then
            match telm1 with
            | none => none
            | some e1 =>
                let cmp1 := cmp key e1.1
                if cmp0 < 0 then getVal key left
                else if cmp0 = 0 then some (some e0.2)
                else if cmp1 < 0 then getVal key midle
                else if cmp1 = 0 then some (some e1.2)
                else getVal key right
          else none

end Tree23Node

end MbedMqtt
