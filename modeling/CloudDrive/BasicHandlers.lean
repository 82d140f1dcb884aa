import CloudDrive.TaskOps
import CloudDrive.VirtualPaths

/-!
# The handlers of short requests

`handler_basic.c`, and the part of `handle_client_event` that answers a request
before it becomes a task.
-/

namespace CloudDrive

namespace HandlerTask

/-- The user name and the password of a login or register payload. -/
def credentials (task : HandlerTask) : Option (Bytes × Bytes) :=
  match task.copyPayload 128 true with
  | none => none
  | some payload =>
      match strtok 10 [] payload with
      | username :: password :: _ => some (username, password)
      | _ => none

def handleRegister (task : HandlerTask) : Handler Unit :=
  match task.credentials with
  | none => task.fail .badRequest
  | some (username, password) => do
      match ← Prog.ask TaskOp.generateSalt with
      | none => task.fail .otherError
      | some salt =>
          match ← Prog.ask (TaskOp.cryptR password salt) with
          | none => task.fail .otherError
          | some passwordHash =>
              let result ← Prog.ask (TaskOp.daoAuthRegister username passwordHash)
              if result ≠ (0 : Int) then task.fail .dbError
              else task.reply .ack .ok []

def handleLogin (task : HandlerTask) : Handler Unit :=
  match task.credentials with
  | none => task.fail .badRequest
  | some (username, password) => do
      let (result, info) ← Prog.ask (TaskOp.daoAuthGetLoginInfo username)
      if result = 1 then task.fail .userNotexist
      else if result = -1 then task.fail .otherError
      else
        let encrypted ← Prog.ask (TaskOp.cryptR password info.passwordHash)
        if encrypted ≠ some info.passwordHash then task.fail .passwdError
        else
          match ← Prog.ask
              (TaskOp.sessionCreate info.userId username info.rootPathId) with
          | none => task.fail .otherError
          | some newId => respond .ack .ok newId []

def handlePwd (task : HandlerTask) : Handler Unit :=
  task.reply .ack .ok task.session.1.cwd

def handleCd (task : HandlerTask) : Handler Unit :=
  match task.copyPayload pathMax false with
  | none => task.fail .badRequest
  | some payload =>
      let normalized :=
        if payload = [] then some (ascii "/")
        else normalizeCdPath task.session.1.cwd payload pathMax
      match normalized with
      | none => task.fail .otherError
      | some virtualPath => do
          match ← Prog.ask
              (TaskOp.daoPathGetNodeId task.session.1.userId virtualPath) with
          | (.isDir, pathId) =>
              let updated ← Prog.ask (TaskOp.sessionUpdateCwd task.packet.sessionId
                pathId virtualPath)
              if !updated then task.fail .otherError
              else task.reply .ack .ok virtualPath
          | (.notFound, _) => task.reply .error .dirNotexist virtualPath
          | (.isFile, _) => task.reply .error .notDir virtualPath
          | _ => task.fail .otherError

/-- The last component of a path as the handlers copy it to a buffer of
`NAME_MAX` bytes, and the path of its parent. -/
def splitTarget (targetPath : Bytes) : Option (Bytes × Bytes) :=
  match splitAtLastSlash targetPath with
  | none => none
  | some (before, name) =>
      let fileName := name.take (nameMax - 1)
      if fileName = [] then none else some (parentOf before, fileName)

def handleLs (task : HandlerTask) : Handler Unit :=
  match task.copyPayload pathMax false with
  | none => task.fail .badRequest
  | some payload =>
      let normalized :=
        if payload = [] then some task.session.1.cwd
        else normalizeCdPath task.session.1.cwd payload pathMax
      match normalized with
      | none => task.fail .badRequest
      | some targetPath => do
          match ← Prog.ask
              (TaskOp.daoPathGetNodeId task.session.1.userId targetPath) with
          | (.isFile, _) =>
              match splitTarget targetPath with
              | none => task.fail .badRequest
              | some (_, fileName) => task.reply .ack .ok fileName
          | (.isDir, targetId) =>
              let (count, listing) ← Prog.ask
                (TaskOp.daoPathGetLsDir task.session.1.userId targetId)
              if count < (0 : Int) then task.reply .error .otherError targetPath
              else task.reply .ack .ok listing.1
          | (.notFound, _) => task.reply .error .dirNotexist targetPath
          | _ => task.reply .error .otherError targetPath

/-- The target of `mkdir` or `rmdir` with its parent and its name; the root is
no target. -/
def directoryTarget (task : HandlerTask) : Option (Bytes × Bytes × Bytes) :=
  match task.copyPayload nameMax false with
  | none => none
  | some payload =>
      match normalizeCdPath task.session.1.cwd payload pathMax with
      | none => none
      | some targetPath =>
          if targetPath = ascii "/" then none
          else
            match splitTarget targetPath with
            | none => none
            | some (parentPath, fileName) =>
                some (targetPath, parentPath, fileName)

def handleMkdir (task : HandlerTask) : Handler Unit :=
  match task.directoryTarget with
  | none => task.fail .badRequest
  | some (targetPath, parentPath, fileName) => do
      match ← Prog.ask
          (TaskOp.daoPathGetNodeId task.session.1.userId parentPath) with
      | (.isDir, parentId) =>
          let result ← Prog.ask (TaskOp.daoPathInsertDir task.session.1.userId
            targetPath parentId fileName)
          if result = (1 : Int) then
            task.reply .error .dirAlreadyExists fileName
          else if result < (0 : Int) then
            task.reply .error .otherError fileName
          else task.reply .ack .ok fileName
      | (.notFound, _) => task.reply .error .dirNotexist parentPath
      | (.isFile, _) => task.reply .error .notDir parentPath
      | _ => task.reply .error .otherError parentPath

def handleRmdir (task : HandlerTask) : Handler Unit :=
  match task.directoryTarget with
  | none => task.fail .badRequest
  | some (targetPath, _, fileName) => do
      match ← Prog.ask
          (TaskOp.daoPathGetNodeId task.session.1.userId targetPath) with
      | (.isDir, targetDirId) =>
          let children ← Prog.ask
            (TaskOp.daoPathDirHasChild task.session.1.userId targetDirId)
          if (0 : Int) < children then
            task.reply .error .dirNotempty fileName
          else if children < (0 : Int) then
            task.reply .error .otherError fileName
          else
            let result ← Prog.ask (TaskOp.daoPathRmdir targetDirId)
            if result ≠ (0 : Int) then task.reply .error .otherError fileName
            else task.reply .ack .ok targetPath
      | (.notFound, _) => task.reply .error .dirNotexist fileName
      | (.isFile, _) => task.reply .error .notDir fileName
      | _ => task.reply .error .otherError fileName

def handleRm (task : HandlerTask) : Handler Unit :=
  match task.copyPayload nameMax false with
  | none => task.fail .badRequest
  | some payload =>
      match normalizeCdPath task.session.1.cwd payload pathMax with
      | none => task.fail .badRequest
      | some targetPath => do
          let baseFileName := basename targetPath
          match ← Prog.ask
              (TaskOp.daoPathGetNodeId task.session.1.userId targetPath) with
          | (.isFile, targetFileId) =>
              match ← Prog.ask
                  (TaskOp.daoRmFile task.session.1.userId targetFileId) with
              | (.ok, _) => task.reply .ack .ok baseFileName
              | (.notFound, _) => task.reply .error .fileNotexist baseFileName
              | (.shouldDeletePhysical, hashedFilename) =>
                  -- The error reply of a failed unlink does not end the
                  -- handler: the success reply follows.
                  let unlinked ← Prog.ask
                    (TaskOp.unlink (.object hashedFilename))
                  if !unlinked then
                    task.reply .error .ioError baseFileName
                  task.reply .ack .ok baseFileName
              | (.dbError, _) => task.fail .dbError
              | _ => task.reply .error .otherError baseFileName
          | (.isDir, _) => task.reply .error .isDir baseFileName
          | (.notFound, _) => task.reply .error .fileNotexist baseFileName
          | _ => task.reply .error .otherError baseFileName

/-- The switch of `handle_basic_task`. -/
def handleBasicTask (task : HandlerTask) : Handler Unit :=
  if task.packet.type = CmdType.registerReq.code then task.handleRegister
  else if task.packet.type = CmdType.loginReq.code then task.handleLogin
  else if task.packet.type = CmdType.pwd.code then task.handlePwd
  else if task.packet.type = CmdType.cd.code then task.handleCd
  else if task.packet.type = CmdType.ls.code then task.handleLs
  else if task.packet.type = CmdType.mkdir.code then task.handleMkdir
  else if task.packet.type = CmdType.rmdir.code then task.handleRmdir
  else if task.packet.type = CmdType.rm.code then task.handleRm
  else task.fail .protocolError

end HandlerTask

end CloudDrive
