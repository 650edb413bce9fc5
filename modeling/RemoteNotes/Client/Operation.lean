import RemoteNotes.Client.Service

/-!
# What can be asked of a client

The operations of the service and of the session as data, so that whole courses of use can
be spoken of.
-/

namespace RemoteNotes

inductive Operation
  | searchMemos (filter : SearchFilter)
  | getMemo (name : String)
  | createMemo (memo : NewMemo)
  | updateMemo (name : String) (update : MemoUpdate)
  | deleteMemo (name : String)
  | setMemoAttachments (memo : String) (attachments : List String)
  | listMemoAttachments (memo : String)
  | createMemosBatch (memos : List NewMemo)
  | uploadAttachment (upload : AttachmentUpload)
  | getAttachment (name : String)
  | listAttachments
  | downloadAttachment (attachment : Attachment) (thumbnail : Bool) (sink : Sink)
  | deleteAttachment (name : String)
  | getUser (name : String)
  | currentUser
  | call (request : ApiRequest)
  | download (path : String) (pairs : List (String × String)) (resource : String) (sink : Sink)
  | getToken
  | refreshAfterRejection (stale : SessionToken)
  | authenticate (credential : Credential)
  | signOut
  | close

namespace Operation

/-- Does what is asked. A batch never fails as a whole, whatever becomes of its memos. -/
def perform (c : Client) : Operation → Action Unit
  | .searchMemos filter => discard (c.searchMemos filter)
  | .getMemo name => discard (c.getMemo name)
  | .createMemo memo => discard (c.createMemo memo)
  | .updateMemo name update => discard (c.updateMemo name update)
  | .deleteMemo name => c.deleteMemo name
  | .setMemoAttachments memo attachments => c.setMemoAttachments memo attachments
  | .listMemoAttachments memo => discard (c.listMemoAttachments memo)
  | .createMemosBatch memos => discard (ExceptT.lift (c.createMemosBatch memos))
  | .uploadAttachment upload => discard (c.uploadAttachment upload)
  | .getAttachment name => discard (c.getAttachment name)
  | .listAttachments => discard c.listAttachments
  | .downloadAttachment attachment thumbnail sink => do
    let (result, _) ← ExceptT.lift (c.downloadAttachment attachment thumbnail sink)
    discard (Action.ofExcept result)
  | .deleteAttachment name => c.deleteAttachment name
  | .getUser name => discard (c.getUser name)
  | .currentUser => discard c.currentUser
  | .call request => discard (c.call request)
  | .download path pairs resource sink => do
    let (result, _) ← ExceptT.lift (c.download path pairs resource sink)
    discard (Action.ofExcept result)
  | .getToken => discard c.getToken
  | .refreshAfterRejection stale => discard (c.refreshAfterRejection stale)
  | .authenticate credential => discard (c.authenticate credential)
  | .signOut => c.signOut
  | .close => Client.close

/-- Whether an operation gives the token up. -/
def givesUp : Operation → Bool
  | .signOut | .close => true
  | _ => false

end Operation

end RemoteNotes
